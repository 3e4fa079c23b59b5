import PlannerTrials.Log
import PlannerTrials.Log.Pattern
import PlannerTrials.Text.Blank
import PlannerTrials.Text.LetterTable
import PlannerTrials.Text.Quoted
import PlannerTrials.Text.Segments

/-!
# Which events are shown

A filter is a list of directives between commas.  A directive has up to three parts: the start of the
names of the sources it is for, a scope in square brackets, and after an equals sign the level up to
which events pass, all of them if there is none.  A level alone is a directive for everything.  A scope
names a span of time, the field that an event must have, or both, and may ask for the value of the field.

Of the directives for an event the one with the longest start decides, between equal starts the
one that asks for a field, and then the last one.  An event that no directive is for is not shown.
A text that is not of this form is no filter.
-/

namespace PlannerTrials

/-- A directive of a filter. -/
inductive Directive where
  /-- Events of sources with a name that starts so, and with the field if there is one, pass up to a
  rank. -/
  | events (start : List Char) (field? : Option (List Char)) (rank : Nat)
  /-- A directive for a span of time or for the value of a field.  The program marks no spans, so it
  decides about no event. -/
  | spans
  deriving DecidableEq, Repr

namespace Directive

/-- The texts of the levels from `off` on. -/
def levelTexts : List (List Char) :=
  ["off", "error", "warn", "info", "debug", "trace"].map String.toList

/-- The rank that everything has. -/
def fullRank : Nat := 5

/-- The number that digits after an optional plus sign stand for, if it is the rank of a level. -/
def numericRank? (text : List Char) : Option Nat :=
  let digits := match text with
    | '+' :: cs => cs
    | cs => cs
  if digits ≠ [] ∧ digits.all Number.isDigit ∧ Number.digitsValue 0 digits ≤ fullRank then
    some (Number.digitsValue 0 digits)
  else none

/-- The rank that a text stands for, the name of a level or its number. -/
def rank? (text : List Char) : Option Nat :=
  match numericRank? text with
  | some rank => some rank
  | none => levelTexts.idxOf? (text.map Char.toLower)

/-- The rank after an equals sign. -/
def rankAfterSign? (text : List Char) : Option Nat :=
  if text = [] then some fullRank else rank? text

/-- Whether a directive may start with a character. -/
def mayStart (c : Char) : Bool :=
  c = '-' || c = ':' || c = '_' || c = '[' || Text.covers Text.letterRanges c.toNat

/-- What a scope is about. -/
inductive Scope where
  | spans
  | field (name : List Char)
  deriving DecidableEq, Repr

/-- What the text of a field stands for; with a value, up to a second equals sign, it is about spans
only. -/
def fieldScope? (named : Bool) (text : List Char) : Option Scope :=
  match text.dropWhile (· ≠ '=') with
  | [] => some (if named then .spans else .field text)
  | _ :: value => if Pattern.isValue (value.takeWhile (· ≠ '=')) then some .spans else none

/-- The place of the first of some characters, counted from a place on. -/
def findFrom (signs : List Char) (bare : List Char) (place : Nat) : Option (Char × Nat) :=
  let before := (bare.drop place).takeWhile fun c => !signs.contains c
  ((bare.drop place).drop before.length).head?.map fun c => (c, place + before.length)

/-- The part of a text between two places. -/
def slice (text : List Char) (first last : Nat) : List Char := (text.drop first).take (last - first)

/-- Reads a scope from the place after its opening bracket; returns the place after the closing one.
The signs are looked for in `bare`, and the parts are cut out of `text`. -/
def readScope? (text bare : List Char) (place : Nat) : Option (Scope × Nat) :=
  match findFrom [']', '{'] bare place with
  | some (']', last) => some (.spans, last + 1)
  | some ('{', open_) =>
    match findFrom ['}'] bare (open_ + 1) with
    | some (_, close) =>
      let field := slice text (open_ + 1) close
      if field = [] ∨ (bare.drop (close + 1)).head? ≠ some ']' then none
      else
        (fieldScope? (slice text place open_ ≠ []) field).map fun scope => (scope, close + 2)
    | none => none
  | _ => none

/-- A directive of its three parts. -/
def ofParts (start : List Char) (scope : Scope) (rank : Nat) : Directive :=
  match scope with
  | .spans => .spans
  | .field name => .events start (some name) rank

/-- Reads a scope and the level after it. -/
def readScoped? (start text bare : List Char) (place : Nat) : Option Directive :=
  match readScope? text bare place with
  | none => none
  | some (scope, place) =>
    match bare.drop place with
    | [] => some (ofParts start scope fullRank)
    | '=' :: _ => (rankAfterSign? (text.drop (place + 1))).map (ofParts start scope)
    | _ => none

/-- Reads a directive.  Its signs are looked for between the blanks at its ends; its parts are cut out of
the whole text at the places that the signs have without the blanks. -/
def read? (text : List Char) : Option Directive :=
  let bare := Text.trim text
  if !(bare.head?.map mayStart).getD false then none
  else
    match findFrom ['=', '['] bare 0 with
    | none => some (match rank? text with
      | some rank => .events [] none rank
      | none => .events text none fullRank)
    | some ('=', place) =>
      (rankAfterSign? (text.drop (place + 1))).map (.events (text.take place) none)
    | some (_, place) => readScoped? (text.take place) text bare (place + 1)

/-- The only field that events have. -/
def messageField : List Char := "message".toList

/-- Whether a directive is for an event. -/
def isFor (event : Event) : Directive → Bool
  | .events start field? _ =>
    start.isPrefixOf event.source.name.toList && (field?.map (· == messageField)).getD true
  | .spans => false

/-- How closely a directive describes its events: the length of its start, and then whether it asks for
a field. -/
def closeness : Directive → Nat
  | .events start field? _ => 2 * start.length + (if field?.isSome then 1 else 0)
  | .spans => 0

/-- Whether an event passes under a directive that is for it. -/
def passes (event : Event) : Directive → Bool
  | .events _ _ rank => event.level.rank ≤ rank
  | .spans => false

end Directive

/-- A filter for events. -/
structure LogFilter where
  directives : List Directive
  deriving DecidableEq, Repr

namespace LogFilter

/-- The filter that passes everything up to a level. -/
def upTo (level : Level) : LogFilter := ⟨[.events [] none level.rank]⟩

/-- Reads a filter; without directives it passes errors only. -/
def read? (text : String) : Option LogFilter :=
  match (Text.segments (· = ',') text.toList).filter (· ≠ []) with
  | [] => some (upTo .error)
  | parts => (parts.mapM Directive.read?).map LogFilter.mk

/-- The directive that decides about an event. -/
def deciding? (filter : LogFilter) (event : Event) : Option Directive :=
  (filter.directives.filter (Directive.isFor event)).foldl
    (fun best d =>
      match best with
      | some b => if b.closeness ≤ d.closeness then some d else best
      | none => some d)
    none

/-- Whether an event is shown. -/
def passes (filter : LogFilter) (event : Event) : Bool :=
  ((filter.deciding? event).map (Directive.passes event)).getD false

/-- The filter of a program: the one that is set, if it can be read, and otherwise everything up to
`INFO`, or up to `DEBUG` if more is asked for. -/
def choose (set? : Option String) (verbose : Bool) : LogFilter :=
  match set?.bind read? with
  | some filter => filter
  | none => upTo (if verbose then .debug else .info)

end LogFilter

end PlannerTrials

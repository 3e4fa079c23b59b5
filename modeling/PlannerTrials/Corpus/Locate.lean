import PlannerTrials.Config.Basic
import PlannerTrials.Corpus.Basic
import PlannerTrials.Failure
import PlannerTrials.Files.View
import PlannerTrials.Log

/-!
# Finding the problems of a domain

A domain has a folder of its own in the benchmarks folder, with the file that describes it.  A
problem of the domain is a file in this folder whose name has the start and the end that the
configuration gives.  The problems are taken in the order of their names, not in the order in which
the folder lists them, and only as many as the configuration allows: the same ones on every pass.

`locateAll` finds the problems of all configured domains before anything is run, and stops at the
first domain that is named a second time or has no corpus.
-/

namespace PlannerTrials.Corpus

open Files

/-- The folder of a domain. -/
def folderOf (config : Config) (domain : String) : String :=
  Path.join config.benchmarksFolder domain

/-- The file that describes a domain. -/
def descriptionOf (config : Config) (domain : String) : String :=
  Path.join (folderOf config domain) config.descriptionName

/-- Whether a name has the start and the end of the name of a problem. -/
def isProblemName (config : Config) (name : String) : Bool :=
  config.problemStart.toList.isPrefixOf name.toList &&
    config.problemEnd.toList.isSuffixOf name.toList

/-- The order of names, by code points, which is also the order of their bytes. -/
def nameBefore (a b : String) : Bool := a ≤ b

/-- The name of an entry of a folder, if it is the name of a problem and the entry is a file. -/
def problemName? (config : Config) (view : FileView) (folder : String) (entry : Name) :
    Option String :=
  match Utf8.decodeString? entry with
  | none => none
  | some name =>
    if view.isFile (Path.join folder name) && isProblemName config name then some name else none

/-- The names of all problems of a domain in order. -/
def namesIn (config : Config) (view : FileView) (domain : String) :
    Except Failure (List String) :=
  let folder := folderOf config domain
  if !view.isFolder folder then .error (.domainNotFound domain folder)
  else if !view.isFile (descriptionOf config domain) then
    .error (.descriptionMissing domain (descriptionOf config domain))
  else
    match view.list folder with
    | .error fault => .error (.domainUnreadable domain folder fault)
    | .ok entries =>
      .ok ((entries.filterMap (problemName? config view folder)).mergeSort nameBefore)

/-- The corpus with the first of the given problems of a domain. -/
def ofNames (config : Config) (domain : String) (names : List String) : Corpus where
  domain := domain
  description := descriptionOf config domain
  problems := (names.take config.sampleSize).map fun name =>
    { domain, path := Path.join (folderOf config domain) name }

/-- Finds the corpus of a domain. -/
def locate (config : Config) (view : FileView) (domain : String) : Except Failure Corpus :=
  (namesIn config view domain).map (ofNames config domain)

/-- What the search for a corpus tells. -/
def locateEvents (config : Config) (view : FileView) (domain : String) : List Event :=
  match namesIn config view domain with
  | .error _ => []
  | .ok names =>
    [⟨.corpus, .debug, "Domain " ++ domain ++ ": " ++ toString names.length ++
      " eligible problem files, selected " ++ toString (names.take config.sampleSize).length⟩]

/-- What is told of a corpus that was found. -/
def selectedEvent (corpus : Corpus) : Event :=
  ⟨.trials, .info, "📂 " ++ corpus.domain ++ ": " ++ toString corpus.problems.length ++
    " problem(s) selected"⟩

/-- The failure of a domain that is named a second time. -/
def repeatedDomain (domain : String) : Failure :=
  .configValue "domains" domain "Duplicate entry"

/-- Finds the corpora of domains; `earlier` are the domains already passed. -/
def locateFrom (config : Config) (view : FileView) (earlier : List String) :
    List String → Except Failure (List Corpus)
  | [] => .ok []
  | domain :: rest =>
    if domain ∈ earlier then .error (repeatedDomain domain)
    else
      match locate config view domain with
      | .error failure => .error failure
      | .ok corpus => (locateFrom config view (domain :: earlier) rest).map (corpus :: ·)

/-- What the search for the corpora of domains tells. -/
def locateEventsFrom (config : Config) (view : FileView) (earlier : List String) :
    List String → List Event
  | [] => []
  | domain :: rest =>
    if domain ∈ earlier then []
    else
      match locate config view domain with
      | .error _ => locateEvents config view domain
      | .ok corpus =>
        locateEvents config view domain ++ selectedEvent corpus ::
          locateEventsFrom config view (domain :: earlier) rest

/-- Finds the corpora of all configured domains. -/
def locateAll (config : Config) (view : FileView) : Except Failure (List Corpus) :=
  locateFrom config view [] config.domains

/-- What the search for all corpora tells. -/
def locateAllEvents (config : Config) (view : FileView) : List Event :=
  locateEventsFrom config view [] config.domains

end PlannerTrials.Corpus

import PlannerTrials.Report.Group
import Mathlib.Data.List.Induction
import Mathlib.Data.List.Nodup

/-!
# What grouping keeps

Grouping moves records about but neither loses nor doubles one: the records of all groups together are a
permutation of the table (`flatMap_records_groups`).  The groups are `Separated`: no two have the
same domain, each has a record, and its records are those of its domain.  This is an invariant of
putting one record into its group, and so holds for every table.

Which groups these are is `Gathers`: one for each domain of the table, in the order in which the domains first
appear, with all records of the domain in the order of the table.  This too is kept by one record: groups
that have gathered a part of the table have gathered the part with the next record once it is put into its group
(`Gathers.insert`), and so the groups of a table gather the table (`gathers_groups`).

On separated groups that are laid out one after the other grouping does nothing at all
(`groups_flatMap_records`), which is how the table of a pass is read: the rows of a domain stand
together there.
-/

namespace PlannerTrials
namespace Group

/-! ## One record -/

/-- Groups that are apart by their domains and hold what belongs to them. -/
structure Separated (gs : List Group) : Prop where
  /-- No two groups have the same domain. -/
  distinct : (gs.map Group.domain).Nodup
  /-- The records of a group are of its domain. -/
  uniform : ∀ g ∈ gs, ∀ r ∈ g.records, r.domain = g.domain
  /-- A group has a record. -/
  inhabited : ∀ g ∈ gs, g.records ≠ []

/-- The domain of a group is that of no other one. -/
theorem Separated.domain_not_mem {before after : List Group} {g : Group}
    (h : Separated (before ++ g :: after)) : g.domain ∉ (before ++ after).map Group.domain := by
  have hdistinct := h.distinct
  rw [List.map_append, List.map_cons, List.nodup_middle, ← List.map_append] at hdistinct
  exact (List.nodup_cons.mp hdistinct).1

/-- A record of a new domain gets a group after all others. -/
theorem insert_of_not_mem {record : Record} {gs : List Group}
    (h : record.domain ∉ gs.map Group.domain) :
    insert record gs = gs ++ [⟨record.domain, [record]⟩] := by
  induction gs with
  | nil => rfl
  | cons g gs ih =>
    rw [List.map_cons, List.mem_cons, not_or] at h
    rw [insert, if_neg (Ne.symm h.1), ih h.2, List.cons_append]

/-- A record of a known domain goes to the end of its group. -/
theorem insert_append {record : Record} {before after : List Group} {g : Group}
    (h : record.domain ∉ before.map Group.domain) (hg : g.domain = record.domain) :
    insert record (before ++ g :: after) =
      before ++ { g with records := g.records ++ [record] } :: after := by
  induction before with
  | nil => rw [List.nil_append, insert, if_pos hg, List.nil_append]
  | cons g' before ih =>
    rw [List.map_cons, List.mem_cons, not_or] at h
    rw [List.cons_append, insert, if_neg (Ne.symm h.1), ih h.2, List.cons_append]

/-- The two cases of putting a record into its group. -/
theorem insert_cases (record : Record) {gs : List Group} (h : Separated gs) :
    (record.domain ∉ gs.map Group.domain ∧
      insert record gs = gs ++ [⟨record.domain, [record]⟩]) ∨
    ∃ before g after, gs = before ++ g :: after ∧ g.domain = record.domain ∧
      insert record gs = before ++ { g with records := g.records ++ [record] } :: after := by
  by_cases hmem : record.domain ∈ gs.map Group.domain
  · obtain ⟨g, hg, hdomain⟩ := List.mem_map.mp hmem
    obtain ⟨before, after, rfl⟩ := List.append_of_mem hg
    have hbefore : record.domain ∉ before.map Group.domain := by
      rw [← hdomain]
      exact fun hin => h.domain_not_mem (List.map_append ▸ List.mem_append_left _ hin)
    exact .inr ⟨before, g, after, rfl, hdomain, insert_append hbefore hdomain⟩
  · exact .inl ⟨hmem, insert_of_not_mem hmem⟩

/-- Putting a record into its group adds it and changes nothing else. -/
theorem flatMap_records_insert (record : Record) (gs : List Group) :
    ((insert record gs).flatMap Group.records).Perm (record :: gs.flatMap Group.records) := by
  induction gs with
  | nil => exact List.Perm.refl _
  | cons g gs ih =>
    rw [insert]
    split
    · rw [List.flatMap_cons, List.flatMap_cons, List.append_assoc]
      exact List.perm_middle
    · rw [List.flatMap_cons, List.flatMap_cons]
      exact (ih.append_left g.records).trans List.perm_middle

/-- A group of a new domain stays apart from all others. -/
theorem Separated.concat {record : Record} {gs : List Group} (h : Separated gs)
    (hnew : record.domain ∉ gs.map Group.domain) :
    Separated (gs ++ [⟨record.domain, [record]⟩]) := by
  refine ⟨?_, ?_, ?_⟩
  · rw [List.map_append, List.map_singleton]
    refine List.nodup_append.mpr ⟨h.distinct, List.nodup_singleton _, fun d hd d' hd' heq => ?_⟩
    have hsame : d = record.domain := heq.trans (List.mem_singleton.mp hd')
    exact hnew (hsame ▸ hd)
  · intro g hg r hr
    rcases List.mem_append.mp hg with hg | hg
    · exact h.uniform g hg r hr
    · rw [List.mem_singleton.mp hg] at hr ⊢
      rw [List.mem_singleton.mp hr]
  · intro g hg
    rcases List.mem_append.mp hg with hg | hg
    · exact h.inhabited g hg
    · rw [List.mem_singleton.mp hg]
      exact List.cons_ne_nil _ _

/-- A group that takes up one more record of its domain stays apart from the others. -/
theorem Separated.grow {record : Record} {before after : List Group} {g : Group}
    (h : Separated (before ++ g :: after)) (hdomain : g.domain = record.domain) :
    Separated (before ++ { g with records := g.records ++ [record] } :: after) := by
  have hmem : g ∈ before ++ g :: after := List.mem_append_right _ List.mem_cons_self
  have hother : ∀ {g'}, g' ∈ before ++ { g with records := g.records ++ [record] } :: after →
      g' = { g with records := g.records ++ [record] } ∨ g' ∈ before ++ g :: after := by
    intro g' hg'
    rcases List.mem_append.mp hg' with hg' | hg'
    · exact .inr (List.mem_append_left _ hg')
    · rcases List.mem_cons.mp hg' with hg' | hg'
      · exact .inl hg'
      · exact .inr (List.mem_append_right _ (List.mem_cons_of_mem _ hg'))
  refine ⟨?_, ?_, ?_⟩
  · have hdistinct := h.distinct
    rw [List.map_append, List.map_cons] at hdistinct ⊢
    exact hdistinct
  · intro g' hg' r hr
    rcases hother hg' with rfl | hg'
    · rcases List.mem_append.mp hr with hr | hr
      · exact h.uniform g hmem r hr
      · rw [List.mem_singleton.mp hr]
        exact hdomain.symm
    · exact h.uniform g' hg' r hr
  · intro g' hg'
    rcases hother hg' with rfl | hg'
    · exact List.append_ne_nil_of_right_ne_nil _ (List.cons_ne_nil _ _)
    · exact h.inhabited g' hg'

/-- Putting a record into its group keeps the groups separated. -/
theorem separated_insert (record : Record) {gs : List Group} (h : Separated gs) :
    Separated (insert record gs) := by
  rcases insert_cases record h with ⟨hnew, hinsert⟩ | ⟨before, g, after, rfl, hdomain, hinsert⟩
  · rw [hinsert]
    exact h.concat hnew
  · rw [hinsert]
    exact h.grow hdomain

/-! ## All records -/

/-- **Grouping loses no record and doubles none.** -/
theorem flatMap_records_groups (records : List Record) :
    ((groups records).flatMap Group.records).Perm records := by
  have hfold : ∀ (rest : List Record) (gs : List Group),
      ((rest.foldl (fun gs r => insert r gs) gs).flatMap Group.records).Perm
        (gs.flatMap Group.records ++ rest) := by
    intro rest
    induction rest with
    | nil =>
      intro gs
      rw [List.foldl_nil, List.append_nil]
    | cons r rest ih =>
      intro gs
      rw [List.foldl_cons]
      refine (ih (insert r gs)).trans ?_
      exact ((flatMap_records_insert r gs).append_right rest).trans List.perm_middle.symm
  exact hfold records []

/-- A record of a group is one of the table. -/
theorem mem_of_mem_groups {records : List Record} {g : Group} (hg : g ∈ groups records)
    {r : Record} (hr : r ∈ g.records) : r ∈ records :=
  (flatMap_records_groups records).mem_iff.mp (List.mem_flatMap.mpr ⟨g, hg, hr⟩)

/-- The groups of a table are separated. -/
theorem separated_groups (records : List Record) : Separated (groups records) := by
  have hfold : ∀ (rest : List Record) (gs : List Group), Separated gs →
      Separated (rest.foldl (fun gs r => insert r gs) gs) := by
    intro rest
    induction rest with
    | nil => exact fun gs h => h
    | cons r rest ih => exact fun gs h => ih _ (separated_insert r h)
  exact hfold records [] ⟨List.nodup_nil, by simp, by simp⟩

/-! ## Which groups -/

/-- Groups that are those of a table. -/
structure Gathers (records : List Record) (gs : List Group) : Prop extends Separated gs where
  /-- There is a group for each domain of the table and for no other. -/
  domains : ∀ domain, domain ∈ gs.map Group.domain ↔ domain ∈ records.map Record.domain
  /-- The groups stand in the order in which their domains first appear. -/
  ordered : (gs.map Group.domain).Pairwise fun domain domain' =>
    (records.map Record.domain).idxOf domain < (records.map Record.domain).idxOf domain'
  /-- The records of a group are all those of its domain, in the order of the table. -/
  whole : ∀ g ∈ gs, g.records = records.filter fun r => r.domain = g.domain

namespace Gathers

variable {seen : List Record} {gs : List Group} {record : Record}

/-- Where a domain first appears does not change with what follows. -/
theorem idxOf_concat (h : Gathers seen gs) {domain : String} (hdomain : domain ∈ gs.map Group.domain) :
    ((seen ++ [record]).map Record.domain).idxOf domain = (seen.map Record.domain).idxOf domain := by
  rw [List.map_append]
  exact List.idxOf_append_of_mem ((h.domains domain).mp hdomain)

/-- The known domains keep their order. -/
theorem ordered_concat (h : Gathers seen gs) :
    (gs.map Group.domain).Pairwise fun domain domain' =>
      ((seen ++ [record]).map Record.domain).idxOf domain <
        ((seen ++ [record]).map Record.domain).idxOf domain' := by
  refine h.ordered.imp_of_mem fun hdomain hdomain' hlt => ?_
  rwa [h.idxOf_concat hdomain, h.idxOf_concat hdomain']

/-- A group of another domain has gathered the next record too. -/
theorem whole_concat (h : Gathers seen gs) {g : Group} (hg : g ∈ gs) (hother : record.domain ≠ g.domain) :
    g.records = (seen ++ [record]).filter fun r => r.domain = g.domain := by
  rw [List.filter_append, List.filter_singleton, h.whole g hg]
  simp [hother]

/-- The next record of a new domain is a group of its own. -/
theorem concat (h : Gathers seen gs) (hnew : record.domain ∉ gs.map Group.domain) :
    Gathers (seen ++ [record]) (gs ++ [⟨record.domain, [record]⟩]) where
  toSeparated := h.toSeparated.concat hnew
  domains domain := by
    simp only [List.map_append, List.map_singleton, List.mem_append, h.domains]
  ordered := by
    have hunseen : record.domain ∉ seen.map Record.domain := mt (h.domains _).mpr hnew
    have hmap : (gs ++ [Group.mk record.domain [record]]).map Group.domain =
        gs.map Group.domain ++ [record.domain] := List.map_append
    rw [hmap]
    refine List.pairwise_append.mpr ⟨h.ordered_concat, List.pairwise_singleton _ _, ?_⟩
    intro domain hdomain domain' hdomain'
    -- The new domain appears where the part that has been seen ends.
    obtain rfl := List.mem_singleton.mp hdomain'
    rw [h.idxOf_concat hdomain, List.map_append, List.idxOf_append_of_notMem hunseen]
    exact Nat.lt_add_right _ (List.idxOf_lt_length_of_mem ((h.domains domain).mp hdomain))
  whole g hg := by
    rcases List.mem_append.mp hg with hg | hg
    · exact h.whole_concat hg fun hsame => hnew (hsame ▸ List.mem_map_of_mem hg)
    · have hunseen : ∀ r ∈ seen, r.domain ≠ record.domain := fun r hr hsame =>
        hnew ((h.domains _).mpr (hsame ▸ List.mem_map_of_mem hr))
      rw [List.mem_singleton.mp hg, List.filter_append,
        List.filter_eq_nil_iff.mpr (by simpa using hunseen)]
      simp

/-- The next record of a known domain goes to the end of its group. -/
theorem grow {before after : List Group} {g : Group} (h : Gathers seen (before ++ g :: after))
    (hdomain : g.domain = record.domain) :
    Gathers (seen ++ [record]) (before ++ { g with records := g.records ++ [record] } :: after) where
  toSeparated := h.toSeparated.grow hdomain
  domains domain := by
    have hknown : record.domain ∈ seen.map Record.domain := by
      rw [← h.domains, ← hdomain]
      exact List.mem_map_of_mem (List.mem_append_right _ List.mem_cons_self)
    have hsame := h.domains domain
    rw [List.map_append, List.map_cons] at hsame ⊢
    rw [hsame, List.map_append, List.map_singleton, List.mem_append, List.mem_singleton]
    exact ⟨.inl, fun hor => hor.elim id fun heq => heq ▸ hknown⟩
  ordered := by
    have hmap : (before ++ { g with records := g.records ++ [record] } :: after).map Group.domain =
        (before ++ g :: after).map Group.domain := by
      rw [List.map_append, List.map_append, List.map_cons, List.map_cons]
    rw [hmap]
    exact h.ordered_concat
  whole g' hg' := by
    have hmem : g ∈ before ++ g :: after := List.mem_append_right _ List.mem_cons_self
    rw [List.mem_append, List.mem_cons, or_left_comm, ← List.mem_append] at hg'
    rcases hg' with rfl | hg'
    · rw [List.filter_append, ← h.whole g hmem]
      simp [hdomain]
    · have hother : g' ∈ before ++ g :: after :=
        List.mem_append.mpr ((List.mem_append.mp hg').imp_right (List.mem_cons_of_mem _))
      refine h.whole_concat hother fun hsame => h.domain_not_mem ?_
      rw [hdomain, hsame]
      exact List.mem_map_of_mem hg'

/-- **One record keeps it so**: groups that have gathered a part of a table have gathered the part with the next
record once it is put into its group. -/
theorem insert (h : Gathers seen gs) (record : Record) :
    Gathers (seen ++ [record]) (Group.insert record gs) := by
  rcases insert_cases record h.toSeparated with
    ⟨hnew, hinsert⟩ | ⟨before, g, after, rfl, hdomain, hinsert⟩
  · rw [hinsert]
    exact h.concat hnew
  · rw [hinsert]
    exact h.grow hdomain

end Gathers

/-- **The groups of a table gather the table.** -/
theorem gathers_groups (records : List Record) : Gathers records (groups records) := by
  induction records using List.reverseRecOn with
  | nil => exact ⟨separated_groups [], fun _ => Iff.rfl, List.Pairwise.nil, by simp [groups]⟩
  | append_singleton seen record ih =>
    have hstep : groups (seen ++ [record]) = insert record (groups seen) := by
      rw [groups, List.foldl_concat]
      rfl
    rw [hstep]
    exact ih.insert record

/-! ## Tables that are grouped already -/

/-- Records of one new domain become one group after all others. -/
theorem foldl_insert_block {gs : List Group} {domain : String} {records : List Record}
    (hnew : domain ∉ gs.map Group.domain) (hne : records ≠ [])
    (hdomain : ∀ r ∈ records, r.domain = domain) :
    records.foldl (fun gs r => insert r gs) gs = gs ++ [⟨domain, records⟩] := by
  have hfold : ∀ (rest known : List Record), (∀ r ∈ rest, r.domain = domain) →
      rest.foldl (fun gs r => insert r gs) (gs ++ [⟨domain, known⟩]) =
        gs ++ [⟨domain, known ++ rest⟩] := by
    intro rest
    induction rest with
    | nil => exact fun known _ => by rw [List.foldl_nil, List.append_nil]
    | cons r rest ih =>
      intro known h
      have hr := h r List.mem_cons_self
      rw [List.foldl_cons, insert_append (by rwa [hr]) hr.symm,
        ih _ fun r hr => h r (List.mem_cons_of_mem _ hr), List.append_assoc,
        List.singleton_append]
  obtain ⟨r, rest, rfl⟩ := List.exists_cons_of_ne_nil hne
  have hr := hdomain r List.mem_cons_self
  rw [List.foldl_cons, insert_of_not_mem (by rwa [hr]), hr,
    hfold rest [r] fun r hr => hdomain r (List.mem_cons_of_mem _ hr), List.singleton_append]

/-- **Grouping undoes laying out separated groups one after the other.** -/
theorem groups_flatMap_records {gs : List Group} (h : Separated gs) :
    groups (gs.flatMap Group.records) = gs := by
  have hfold : ∀ (rest known : List Group), Separated (known ++ rest) →
      (rest.flatMap Group.records).foldl (fun gs r => insert r gs) known = known ++ rest := by
    intro rest
    induction rest with
    | nil => exact fun known _ => by rw [List.flatMap_nil, List.foldl_nil, List.append_nil]
    | cons g rest ih =>
      intro known hsep
      have hmem : g ∈ known ++ g :: rest := List.mem_append_right _ List.mem_cons_self
      have hnew : g.domain ∉ known.map Group.domain := fun hin =>
        hsep.domain_not_mem (List.map_append ▸ List.mem_append_left _ hin)
      have hassoc : known ++ [g] ++ rest = known ++ g :: rest := by
        rw [List.append_assoc, List.singleton_append]
      rw [List.flatMap_cons, List.foldl_append,
        foldl_insert_block hnew (hsep.inhabited g hmem) (hsep.uniform g hmem)]
      rw [ih (known ++ [g]) (by rwa [hassoc]), hassoc]
  exact hfold gs [] h

end Group
end PlannerTrials

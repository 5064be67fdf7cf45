/-
# Rows that patterns take

Patterns are followed over a disk name by name, and what they take on the way is a
row of steps. `Takes` says which rows a list of patterns takes, whatever the disk
is. On a disk the paths that match are those that rows of this kind lead to through
directories: each path that is found has such a row, and each such row is found, but
for one that gets lost. A path that has led nowhere yet is no text to which an empty
part could be added.
-/

import Rowsmith.Proofs.Disk.Listing

namespace Rowsmith.Disk

open Rowsmith.Disk.Path

/-! ## Rows -/

/-- The patterns take a row of steps: each name that leaves nothing open takes itself,
other names take those of entries or steps that they match, and any row of directories
stands in front of a name that matches. -/
inductive Takes : List NamePattern → List String → Prop
  | nil : Takes [] []
  | plain (name : String) {patterns : List NamePattern} {row : List String}
      (rest : Takes patterns row) : Takes (.plain name :: patterns) (name :: row)
  | entry {pieces : List Piece} {name : String} {patterns : List NamePattern}
      {row : List String} (named : IsEntryName name)
      (taken : (NamePattern.loose pieces).takes name = true) (rest : Takes patterns row) :
      Takes (.loose pieces :: patterns) (name :: row)
  | step {pieces : List Piece} {name : String} {patterns : List NamePattern}
      {row : List String} (taken : name ∈ (NamePattern.loose pieces).steps)
      (rest : Takes patterns row) : Takes (.loose pieces :: patterns) (name :: row)
  | depth {pattern : NamePattern} {names : List String} {name : String}
      {patterns : List NamePattern} {row : List String} (single : pattern ≠ .anyDepth)
      (named : ∀ n ∈ names ++ [name], IsEntryName n) (taken : pattern.takes name = true)
      (rest : Takes patterns row) :
      Takes (.anyDepth :: pattern :: patterns) (names ++ name :: row)
  | again {patterns : List NamePattern} {row : List String}
      (rest : Takes (.anyDepth :: patterns) row) : Takes (.anyDepth :: .anyDepth :: patterns) row

/-- Names that leave nothing open take themselves. -/
theorem takes_plain_iff {ps row : List String} {patterns : List NamePattern} :
    Takes (ps.map .plain ++ patterns) row ↔ ∃ rest, row = ps ++ rest ∧ Takes patterns rest := by
  induction ps generalizing row with
  | nil => simp
  | cons name ps ih =>
      rw [List.map_cons, List.cons_append]
      constructor
      · intro h
        cases h with
        | plain _ hrow =>
            obtain ⟨rest, rfl, hrest⟩ := ih.mp hrow
            exact ⟨rest, rfl, hrest⟩
      · rintro ⟨rest, rfl, hrest⟩
        exact .plain name (ih.mpr ⟨rest, rfl, hrest⟩)

/-- Below a directory any row of names is taken that ends in a name that matches. -/
theorem takes_below_iff {pieces : List Piece} {row : List String} :
    Takes [.anyDepth, .loose pieces] row ↔ ∃ names name, row = names ++ [name] ∧
      (∀ n ∈ row, IsEntryName n) ∧ (NamePattern.loose pieces).takes name = true := by
  constructor
  · intro h
    cases h with
    | depth single named taken rest =>
        cases rest
        exact ⟨_, _, rfl, named, taken⟩
  · rintro ⟨names, name, rfl, hnamed, htaken⟩
    exact .depth (by simp) hnamed htaken .nil

/-- What is taken below a directory ends with the name of an entry. -/
theorem Takes.exists_last {pieces : List Piece} {patterns : List NamePattern} {row : List String}
    (h : Takes patterns row) (hlast : [.anyDepth, .loose pieces] <:+ patterns) :
    ∃ front name, row = front ++ [name] ∧ IsEntryName name := by
  have hcons : ∀ {row : List String} (part : String),
      (∃ front name, row = front ++ [name] ∧ IsEntryName name) →
        ∃ front name, part :: row = front ++ [name] ∧ IsEntryName name := by
    rintro row part ⟨front, name, rfl, hname⟩
    exact ⟨part :: front, name, rfl, hname⟩
  induction h with
  | nil => simp at hlast
  | plain first rest ih => exact hcons first (ih (by simpa using List.suffix_cons_iff.mp hlast))
  | @entry _ first _ _ named taken rest ih =>
      exact hcons first (ih (by simpa using List.suffix_cons_iff.mp hlast))
  | @step _ first _ _ taken rest ih =>
      exact hcons first (ih (by simpa using List.suffix_cons_iff.mp hlast))
  | @depth pattern names first patterns row single named taken rest ih =>
      rcases List.suffix_cons_iff.mp hlast with heq | hlast
      · obtain ⟨rfl, rfl⟩ : .loose pieces = pattern ∧ [] = patterns := by simpa using heq
        cases rest
        exact ⟨names, first, rfl, named first (by simp)⟩
      · have hlast : [.anyDepth, .loose pieces] <:+ patterns := by
          simpa [single.symm] using List.suffix_cons_iff.mp hlast
        obtain ⟨front, name, rfl, hname⟩ := ih hlast
        exact ⟨names ++ first :: front, name, by simp, hname⟩
  | again rest ih => exact ih (by simpa using List.suffix_cons_iff.mp hlast)

/-- Behind steps to the same directory at its start the row has an empty part. -/
def IsLost (row : List String) : Prop :=
  (row.dropWhile (· = ".")).head? = some ""

instance (row : List String) : Decidable (IsLost row) :=
  inferInstanceAs (Decidable (_ = _))

theorem isLost_dot_cons {row : List String} : IsLost ("." :: row) ↔ IsLost row := by
  rw [IsLost, List.dropWhile_cons_of_pos (by simp), IsLost]

theorem isLost_cons_of_ne {part : String} {row : List String} (hdot : part ≠ ".") :
    IsLost (part :: row) ↔ part = "" := by
  rw [IsLost, List.dropWhile_cons_of_neg (by simpa using hdot), List.head?_cons, Option.some.injEq]

/-- What follows a step in a row is not lost. -/
theorem isLost_append_cons {front row : List String} {part : String} (hempty : part ≠ "")
    (hrow : part = "." → row = []) : IsLost (front ++ part :: row) ↔ IsLost front := by
  induction front with
  | nil =>
      by_cases hdot : part = "."
      · rw [List.nil_append, hdot, hrow hdot, isLost_dot_cons]
      · rw [List.nil_append, isLost_cons_of_ne hdot]
        simp [IsLost, hempty]
  | cons first front ih =>
      rw [List.cons_append]
      by_cases hdot : first = "."
      · rw [hdot, isLost_dot_cons, isLost_dot_cons, ih]
      · rw [isLost_cons_of_ne hdot, isLost_cons_of_ne hdot]

theorem IsLost.append {front : List String} (h : IsLost front) (row : List String) :
    IsLost (front ++ row) := by
  induction front with
  | nil => simp [IsLost] at h
  | cons first front ih =>
      rw [List.cons_append]
      by_cases hdot : first = "."
      · rw [hdot, isLost_dot_cons] at h ⊢
        exact ih h
      · rwa [isLost_cons_of_ne hdot] at h ⊢

/-- A row of parts can be followed from where the path `p` leads: its steps are taken in
directories, and it does not get lost. -/
structure Follows (d : Disk) (p : String) (row : List String) : Prop where
  slashes : ∀ part ∈ row, '/' ∉ part.toList
  directories : ∀ m ∈ passesFrom (place p) row, d.entry? m = some .directory
  kept : IsHere p → ¬IsLost row

/-! ## Steps further -/

section

variable {d : Disk} {p q part : String} {row : List String}

/-- The path `r` is the path `p` and a step, which is taken in a directory. -/
structure IsStep (d : Disk) (p part r : String) : Prop where
  slash : '/' ∉ part.toList
  kept : IsHere p → part ≠ ""
  directory : d.entry? (place p) = some .directory
  reaches : d.Reaches r
  absolute : isAbsolute r = isAbsolute p
  place : Path.place r = stepBy (Path.place p) part
  steps : stepsOf r = stepsOf p ++ (ofPart? part).toList

theorem isStep_join (hpart : '/' ∉ part.toList) (hne : IsHere p → part ≠ "") (hp : d.Reaches p)
    (hdirectory : d.entry? (place p) = some .directory) : IsStep d p part (join p part) where
  slash := hpart
  kept := hne
  directory := hdirectory
  reaches := reaches_join hp.1 hpart hp hdirectory
  absolute := isAbsolute_join hp.1 (not_isAbsolute_of_not_mem hpart)
  place := place_join hp.1 hpart
  steps := stepsOf_join hp.1 hpart

theorem isStep_continued (hpart : '/' ∉ part.toList) (hne : IsHere p → part ≠ "")
    (hp : d.Reaches p) (hdirectory : d.entry? (place p) = some .directory) :
    IsStep d p part (continued p part) where
  slash := hpart
  kept := hne
  directory := hdirectory
  reaches := reaches_continued hp.1 hpart hne hp hdirectory
  absolute := isAbsolute_continued hp.1 hpart
  place := place_continued hp.1 hpart
  steps := stepsOf_continued hp.1 hpart

/-- A row leads from the path `p` to the path `q`. -/
structure Leads (d : Disk) (p q : String) (row : List String) : Prop extends Follows d p row where
  absolute : isAbsolute q = isAbsolute p
  steps : stepsOf q = stepsOf p ++ row.filterMap ofPart?

/-- A path that a row leads to leads where the row does. -/
theorem Leads.place_eq (h : Leads d p q row) : place q = walk (place p) row := by
  rw [Disk.place_eq q, h.steps, start_eq_of_isAbsolute h.absolute, placeFrom_append,
    ← Disk.place_eq p, walk_eq_placeFrom]

theorem leads_nil (d : Disk) (p : String) : Leads d p p [] where
  slashes := by simp
  directories := by simp [passesFrom]
  kept := fun _ => by decide
  absolute := rfl
  steps := by simp

/-- A step by the name of an entry leads to the entry. -/
theorem IsStep.place_of_isEntryName {r : String} (hstep : IsStep d p part r)
    (hname : IsEntryName part) : Path.place r = Path.place p ++ [part] := by
  rw [hstep.place, stepBy, ofPart?_of_isEntryName hname]
  rfl

theorem IsStep.walk_eq {r : String} (hstep : IsStep d p part r) :
    walk (Path.place r) row = walk (Path.place p) (part :: row) := by
  rw [hstep.place]
  rfl

/-- After a step to the same directory the path has still led nowhere. -/
theorem IsStep.isHere {r : String} (hstep : IsStep d p "." r) (hhere : IsHere p) : IsHere r := by
  refine ⟨hstep.absolute.trans hhere.1, ?_⟩
  rw [hstep.steps, hhere.2]
  rfl

/-- What a row leads to after a step is led to by the row with that step. -/
theorem IsStep.leads {r : String} (hstep : IsStep d p part r) (h : Leads d r q row) :
    Leads d p q (part :: row) where
  slashes := List.forall_mem_cons.mpr ⟨hstep.slash, h.slashes⟩
  directories := by
    rw [passesFrom, List.forall_mem_cons, ← hstep.place]
    exact ⟨hstep.directory, h.directories⟩
  kept := by
    intro hhere
    by_cases hdot : part = "."
    · subst hdot
      rw [isLost_dot_cons]
      exact h.kept (hstep.isHere hhere)
    · rw [isLost_cons_of_ne hdot]
      exact hstep.kept hhere
  absolute := h.absolute.trans hstep.absolute
  steps := by
    rw [h.steps, hstep.steps, List.append_assoc]
    cases hpart : ofPart? part <;> simp [hpart]

/-- An entry of a directory is a step further. -/
theorem isStep_entry (htree : d.IsTree) (hname : IsEntryName part) (hp : d.Reaches p) {e : Entry}
    (hentry : d.entry? (place p ++ [part]) = some e) : IsStep d p part (continued p part) :=
  isStep_continued hname.2.2.2 (fun _ => hname.1) hp (htree.standing _ _ e hentry)

/-- Entries below a directory are steps further, one after the other. -/
theorem leads_extended (htree : d.IsTree) (hp : d.Reaches p) {names : List String}
    (hnames : ∀ name ∈ names, IsEntryName name) {e : Entry}
    (hentry : d.entry? (place p ++ names) = some e) :
    d.Reaches (extended p names) ∧
      ∀ q row, Leads d (extended p names) q row → Leads d p q (names ++ row) := by
  induction names generalizing p with
  | nil => exact ⟨hp, fun q row hrow => hrow⟩
  | cons name names ih =>
      rw [List.forall_mem_cons] at hnames
      obtain ⟨e', hfirst⟩ : ∃ e', d.entry? (place p ++ [name]) = some e' := by
        cases names with
        | nil => exact ⟨e, hentry⟩
        | cons next rest =>
            have hrest : d.entry? (place p ++ [name] ++ next :: rest) = some e := by
              rw [List.append_assoc]
              exact hentry
            exact ⟨.directory, htree.directory_of_append (List.cons_ne_nil next rest) hrest⟩
      have hstep := isStep_entry htree hnames.1 hp hfirst
      obtain ⟨hreaches, hleads⟩ := ih hstep.reaches hnames.2 (by
        rw [hstep.place_of_isEntryName hnames.1, List.append_assoc]
        exact hentry)
      exact ⟨hreaches, fun q row hrow => hstep.leads (hleads q row hrow)⟩

end

/-! ## Paths that match -/

theorem getLast?_ne_of_cons {α : Type} {x y : α} {xs : List α}
    (h : (x :: xs).getLast? ≠ some y) : xs.getLast? ≠ some y := by
  intro hlast
  apply h
  rw [List.getLast?_cons, hlast]
  rfl

/-- What a name that leaves nothing open is found at is a step further. -/
theorem isStep_of_plain {d : Disk} {p name : String} (hreaches : d.Reaches p)
    (hslash : '/' ∉ name.toList)
    (hfound : (if name = "." || name = ".." then d.isDirectory p
      else d.isThere (continued p name)) = true) : IsStep d p name (continued p name) := by
  split at hfound
  next hspecial =>
    have hne : IsHere p → name ≠ "" := by
      rintro - rfl
      simp at hspecial
    exact isStep_continued hslash hne hreaches (isDirectory_iff.mp hfound).2
  next =>
    have hthere := (isThere_iff.mp hfound).1
    have hne : IsHere p → name ≠ "" := by
      rintro hhere rfl
      rcases continued_cases hreaches.1 "" with ⟨-, hpath⟩ | ⟨hne, -⟩
      · exact hthere.1 hpath
      · exact hne hhere
    exact isStep_continued hslash hne hreaches
      (directory_of_reaches_continued hreaches.1 hslash hthere)

/-- The steps that open names take are those to the same directory and upwards. -/
theorem eq_of_mem_steps {pattern : NamePattern} {name : String} (h : name ∈ pattern.steps) :
    name = "." ∨ name = ".." := by
  unfold NamePattern.steps at h
  split at h
  · simpa using (List.mem_filter.mp h).1
  · cases h

/-- A step that an open name takes in a directory is a step further. -/
theorem isStep_of_mem_steps {d : Disk} {pattern : NamePattern} {p name : String}
    (hname : name ∈ pattern.steps) (hdirectory : d.isDirectory p = true) :
    IsStep d p name (Path.join p name) := by
  obtain ⟨hreaches, hentry⟩ := isDirectory_iff.mp hdirectory
  have hproper : '/' ∉ name.toList ∧ name ≠ "" := by
    rcases eq_of_mem_steps hname with rfl | rfl <;> decide
  exact isStep_join hproper.1 (fun _ => hproper.2) hreaches hentry

theorem mem_children_iff {d : Disk} {p name : String} :
    name ∈ d.children p ↔ ∃ e, ([name], e) ∈ d.below p := by
  rw [children, List.mem_filterMap]
  constructor
  · rintro ⟨⟨names, e⟩, hmem, hname⟩
    dsimp only at hname
    split at hname
    · cases hname
      exact ⟨e, hmem⟩
    · cases hname
  · rintro ⟨e, hmem⟩
    exact ⟨_, hmem, rfl⟩

/-- An entry of a directory is found at a step further. -/
theorem isStep_of_mem_children {d : Disk} (htree : d.IsTree) {p name : String}
    (hreaches : d.Reaches p) (h : name ∈ d.children p) :
    IsEntryName name ∧ IsStep d p name (continued p name) := by
  obtain ⟨e, hbelow⟩ := mem_children_iff.mp h
  obtain ⟨-, hnames, e', hentry⟩ := htree.of_mem_below hbelow
  have hname := List.forall_mem_singleton.mp hnames
  exact ⟨hname, isStep_entry htree hname hreaches hentry⟩

/-- A path that is found has a row that the patterns take and that leads to it. -/
theorem exists_leads_of_mem_expand {d : Disk} (htree : d.IsTree) {patterns : List NamePattern}
    (hlast : patterns.getLast? ≠ some .anyDepth)
    (hslashes : ∀ name, .plain name ∈ patterns → '/' ∉ name.toList) {p q : String}
    (hreaches : d.Reaches p) (h : q ∈ d.expand patterns p) :
    ∃ row, Takes patterns row ∧ Leads d p q row := by
  -- what is said of the names holds of those behind the first
  have hrest {x : NamePattern} {xs : List NamePattern}
      (hnames : ∀ name, .plain name ∈ x :: xs → '/' ∉ name.toList) :
      ∀ name, .plain name ∈ xs → '/' ∉ name.toList :=
    fun name hname => hnames name (List.mem_cons_of_mem _ hname)
  induction patterns, p using expand.induct d with
  | case1 p =>
      obtain rfl := List.mem_singleton.mp h
      exact ⟨[], .nil, leads_nil d q⟩
  | case2 name patterns p q' found hfound ih =>
      have hstep := isStep_of_plain hreaches (hslashes name List.mem_cons_self) hfound
      obtain ⟨row, htakes, hleads⟩ := ih (getLast?_ne_of_cons hlast) (hrest hslashes)
        hstep.reaches (mem_expand_name_iff.mp h).2
      exact ⟨name :: row, .plain name htakes, hstep.leads hleads⟩
  | case3 name patterns p q' found hfound =>
      exact absurd (mem_expand_name_iff.mp h).1 hfound
  | case4 pieces patterns p ihentry ihstep =>
      rcases mem_expand_loose_iff.mp h with ⟨name, hchild, htaken, h⟩ | ⟨hhere, name, hname, h⟩
      · obtain ⟨hnamed, hstep⟩ := isStep_of_mem_children htree hreaches hchild
        obtain ⟨row, htakes, hleads⟩ := ihentry name (getLast?_ne_of_cons hlast) (hrest hslashes)
          hstep.reaches h
        exact ⟨name :: row, .entry hnamed htaken htakes, hstep.leads hleads⟩
      · have hstep := isStep_of_mem_steps hname hhere
        obtain ⟨row, htakes, hleads⟩ := ihstep name (getLast?_ne_of_cons hlast) (hrest hslashes)
          hstep.reaches h
        exact ⟨name :: row, .step hname htakes, hstep.leads hleads⟩
  | case5 p => exact absurd rfl hlast
  | case6 patterns p ih =>
      rw [expand] at h
      obtain ⟨row, htakes, hleads⟩ := ih (getLast?_ne_of_cons hlast) (hrest hslashes) hreaches h
      exact ⟨row, .again htakes, hleads⟩
  | case7 pattern patterns p hne ih =>
      obtain ⟨names, e, hbelow, htaken, h⟩ := (mem_expand_depth_iff hne).mp h
      obtain ⟨hnonempty, hnamed, e', hentry⟩ := htree.of_mem_below hbelow
      obtain ⟨hfollowed, hleads⟩ := leads_extended htree hreaches hnamed hentry
      obtain ⟨before, name, rfl⟩ := (List.eq_nil_or_concat names).resolve_left hnonempty
      rw [List.concat_eq_append] at *
      obtain ⟨row, htakes, hrow⟩ := ih (before ++ [name], e)
        (getLast?_ne_of_cons (getLast?_ne_of_cons hlast)) (hrest (hrest hslashes)) hfollowed h
      have hleads := hleads q row hrow
      rw [List.append_assoc] at hleads
      exact ⟨_, .depth hne hnamed (by simpa using htaken) htakes, hleads⟩

namespace Follows

variable {d : Disk} {p part r : String} {row : List String}

theorem directory (h : Follows d p (part :: row)) : d.entry? (place p) = some .directory :=
  h.directories _ List.mem_cons_self

theorem slash (h : Follows d p (part :: row)) : '/' ∉ part.toList :=
  h.slashes part List.mem_cons_self

/-- The first step of a row is not lost. -/
theorem kept_head (h : Follows d p (part :: row)) : IsHere p → part ≠ "" := by
  rintro hhere rfl
  exact h.kept hhere (by simp [IsLost])

/-- After its first step a row is followed on. -/
theorem tail (h : Follows d p (part :: row)) (hstep : IsStep d p part r) : Follows d r row where
  slashes := fun other hother => h.slashes other (List.mem_cons_of_mem _ hother)
  directories := by
    intro m hm
    rw [hstep.place] at hm
    exact h.directories m (List.mem_cons_of_mem _ hm)
  kept := by
    rintro ⟨hrelative, hnil⟩
    rw [hstep.steps, List.append_eq_nil_iff, Option.toList_eq_nil_iff, ← isIdle_iff] at hnil
    have hhere : IsHere p := ⟨hstep.absolute.symm.trans hrelative, hnil.1⟩
    have hdot : part = "." := by
      simpa [isIdle, hstep.kept hhere] using hnil.2
    have hkept := h.kept hhere
    rwa [hdot, isLost_dot_cons] at hkept

/-- Where a row goes on from there is an entry. -/
theorem exists_entry? (h : Follows d p row) {e : Entry}
    (hend : d.entry? (walk (place p) row) = some e) : ∃ e', d.entry? (place p) = some e' := by
  cases row with
  | nil => exact ⟨e, hend⟩
  | cons part row => exact ⟨.directory, h.directory⟩

theorem isStep_continued (h : Follows d p (part :: row)) (hreaches : d.Reaches p) :
    IsStep d p part (continued p part) :=
  Disk.isStep_continued h.slash h.kept_head hreaches h.directory

/-- After names of entries a row is followed on. -/
theorem drop_names {names : List String} (hp : p ≠ "") (hne : names ≠ [])
    (hnames : ∀ name ∈ names, IsEntryName name) (h : Follows d p (names ++ row)) :
    place (extended p names) = place p ++ names ∧ Follows d (extended p names) row := by
  obtain ⟨-, habsolute, hsteps⟩ := extended_names hp hnames
  have hplace : place (extended p names) = place p ++ names := by
    rw [place_eq, hsteps, placeFrom_append, placeFrom_map_normal,
      start_eq_of_isAbsolute habsolute, ← place_eq]
  refine ⟨hplace, ⟨fun part hpart => ?_, fun m hm => ?_, fun hhere => ?_⟩⟩
  · exact h.slashes part (List.mem_append_right _ hpart)
  · apply h.directories m
    rw [passesFrom_append, walk_names hnames, ← hplace]
    exact List.mem_append_right _ hm
  · have hnil := hhere.2
    rw [hsteps] at hnil
    simp [hne] at hnil

end Follows

/-- A path that a row leads to is found if the patterns take the row. -/
theorem exists_mem_expand {d : Disk} (htree : d.IsTree) {patterns : List NamePattern} {p : String}
    {row : List String} (htakes : Takes patterns row) (hreaches : d.Reaches p)
    (hfollows : Follows d p row) {e : Entry} (hend : d.entry? (walk (place p) row) = some e) :
    ∃ q ∈ d.expand patterns p, d.Reaches q ∧ Leads d p q row := by
  induction htakes generalizing p with
  | nil => exact ⟨p, List.mem_singleton_self p, hreaches, leads_nil d p⟩
  | plain name rest ih =>
      have hstep := hfollows.isStep_continued hreaches
      have htail := hfollows.tail hstep
      rw [← hstep.walk_eq] at hend
      obtain ⟨e', hthere⟩ := htail.exists_entry? hend
      obtain ⟨q, hq, hqreaches, hleads⟩ := ih hstep.reaches htail hend
      refine ⟨q, mem_expand_name_iff.mpr ⟨?_, hq⟩, hqreaches, hstep.leads hleads⟩
      have hhere : d.isDirectory p = true := isDirectory_iff.mpr ⟨hreaches, hfollows.directory⟩
      have hnext : d.isThere (continued p name) = true :=
        isThere_iff.mpr ⟨hstep.reaches, by rw [hthere]; rfl⟩
      rw [hhere, hnext, ite_self]
  | @entry pieces name patterns row named taken rest ih =>
      have hstep := hfollows.isStep_continued hreaches
      have htail := hfollows.tail hstep
      rw [← hstep.walk_eq] at hend
      obtain ⟨e', hthere⟩ := htail.exists_entry? hend
      obtain ⟨q, hq, hqreaches, hleads⟩ := ih hstep.reaches htail hend
      have hchild : name ∈ d.children p := by
        rw [hstep.place_of_isEntryName named] at hthere
        exact mem_children_iff.mpr
          ⟨e', mem_below hreaches (by simp) (List.forall_mem_singleton.mpr named) hthere⟩
      exact ⟨q, mem_expand_loose_iff.mpr (.inl ⟨name, hchild, taken, hq⟩), hqreaches,
        hstep.leads hleads⟩
  | @step pieces name patterns row taken rest ih =>
      have hhere : d.isDirectory p = true := isDirectory_iff.mpr ⟨hreaches, hfollows.directory⟩
      have hstep := isStep_of_mem_steps taken hhere
      rw [← hstep.walk_eq] at hend
      obtain ⟨q, hq, hqreaches, hleads⟩ := ih hstep.reaches (hfollows.tail hstep) hend
      exact ⟨q, mem_expand_loose_iff.mpr (.inr ⟨hhere, name, taken, hq⟩), hqreaches,
        hstep.leads hleads⟩
  | @depth pattern names name patterns row single named taken rest ih =>
      rw [List.append_cons] at hfollows hend ⊢
      obtain ⟨hplace, htail⟩ := hfollows.drop_names hreaches.1 (by simp) named
      rw [walk_append, walk_names named, ← hplace] at hend
      obtain ⟨e', hthere⟩ := htail.exists_entry? hend
      rw [hplace] at hthere
      obtain ⟨hfollowed, hleads⟩ := leads_extended htree hreaches named hthere
      obtain ⟨q, hq, hqreaches, hrow⟩ := ih hfollowed htail hend
      have hbelow := mem_below hreaches (by simp) named hthere
      exact ⟨q, (mem_expand_depth_iff single).mpr ⟨_, e', hbelow, by simpa using taken, hq⟩,
        hqreaches, hleads q row hrow⟩
  | again rest ih =>
      obtain ⟨q, hq, hfound⟩ := ih hreaches hfollows hend
      refine ⟨q, ?_, hfound⟩
      rw [expand]
      exact hq

end Rowsmith.Disk

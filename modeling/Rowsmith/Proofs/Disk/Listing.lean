/-
# Listing what is below a directory

The pattern of all paths below a directory is the path of the directory with two
more names. If the path is plain text then its names match themselves only, and
what matches the pattern are the entries below the directory, each by the names
that lead to it. So the files that are found are exactly those below the
directory, and they are spelled as they stand there, unless the path starts with
a step to the same directory, which is not repeated in what is found.
-/

import Rowsmith.Proofs.Disk.Continuation
import Rowsmith.Proofs.Disk.Edit

namespace Rowsmith.Disk

open Rowsmith.Disk.Path

/-! ## Patterns without open characters -/

/-- No character of a text is special in a pattern. -/
def IsPlainText (s : String) : Prop :=
  ∀ c ∈ s.toList, c ≠ '?' ∧ c ≠ '*' ∧ c ≠ '['

instance (s : String) : Decidable (IsPlainText s) :=
  List.decidableBAll _ s.toList

namespace Piece

theorem ofChars_cons_of_plain {c : Char} (hc : c ≠ '?' ∧ c ≠ '*' ∧ c ≠ '[') (position : Nat)
    (before : Option Char) (cs : List Char) :
    ofChars 0 position before (c :: cs) =
      (ofChars 0 (position + 1) (some c) cs).map (exactly c :: ·) := by
  obtain ⟨hone, hrun, hclass⟩ := hc
  rw [ofChars.eq_def]
  dsimp only
  split <;> simp_all

/-- A plain text is a pattern that spells it. -/
theorem ofText_of_isPlainText {s : String} (h : IsPlainText s) :
    ofText s = .ok (s.toList.map exactly) := by
  have hchars : ∀ (cs : List Char), (∀ c ∈ cs, c ≠ '?' ∧ c ≠ '*' ∧ c ≠ '[') →
      ∀ position before, ofChars 0 position before cs = .ok (cs.map exactly) := by
    intro cs hcs
    induction cs with
    | nil => exact fun _ _ => rfl
    | cons c cs ih =>
        intro position before
        rw [List.forall_mem_cons] at hcs
        rw [ofChars_cons_of_plain hcs.1, ih hcs.2]
        rfl
  exact hchars _ h _ _

/-- A plain text may stand in front of a slash and a pattern. -/
theorem exists_ofChars_append_slash {cs tail : List Char}
    (hcs : ∀ c ∈ cs, c ≠ '?' ∧ c ≠ '*' ∧ c ≠ '[')
    (htail : ∀ position, ∃ pieces, ofChars 0 position (some '/') tail = .ok pieces)
    (position : Nat) (before : Option Char) :
    ∃ pieces, ofChars 0 position before (cs ++ '/' :: tail) = .ok pieces := by
  induction cs generalizing position before with
  | nil =>
      obtain ⟨pieces, hpieces⟩ := htail (position + 1)
      refine ⟨exactly '/' :: pieces, ?_⟩
      rw [List.nil_append, ofChars_cons_of_plain (by decide), hpieces]
      rfl
  | cons c cs ih =>
      rw [List.forall_mem_cons] at hcs
      obtain ⟨more, hmore⟩ := ih hcs.2 (position + 1) (some c)
      refine ⟨exactly c :: more, ?_⟩
      rw [List.cons_append, ofChars_cons_of_plain hcs.1, hmore]
      rfl

theorem spelling?_map_exactly (cs : List Char) : spelling? (cs.map exactly) = some cs := by
  induction cs with
  | nil => rfl
  | cons c cs ih => simp [spelling?, ih]

end Piece

theorem NamePattern.ofPieces_map_exactly (s : String) :
    ofPieces (s.toList.map .exactly) = plain s := by
  simp [ofPieces, Piece.spelling?_map_exactly]

theorem isPlainText_of_mem_parts {p part : String} (h : IsPlainText p) (hpart : part ∈ parts p) :
    IsPlainText part :=
  fun c hc => h c (mem_of_mem_parts hpart hc)

theorem IsPlainText.of_stem {p stem : String} (h : IsPlainText p)
    (hspelled : p = stem ∨ p = stem ++ "/") : IsPlainText stem := by
  rcases hspelled with rfl | rfl
  · exact h
  · exact fun c hc => h c (by simp [hc])

/-- What the last name of a pattern has to be for a path and any row of
directories to stand in front of it. -/
structure IsLastName (last : String) (pieces : List Piece) : Prop where
  ne_empty : last ≠ ""
  slash_not_mem : '/' ∉ last.toList
  ofText : Piece.ofText last = .ok pieces
  loose : NamePattern.ofPieces pieces = .loose pieces
  afterDepth : ∀ position, ∃ more,
    Piece.ofChars 0 position (some '/') ('*' :: '*' :: '/' :: last.toList) = .ok more

section

variable {p last : String} {pieces : List Piece}

/-- A path that is continued by any row of directories and a last name is continued after its
stem. -/
theorem join_join {stem : String} (hstem : ∀ q, isAbsolute q = false → join p q = stem ++ "/" ++ q)
    (hlast : IsLastName last pieces) :
    join (join p "**") last = stem ++ "/" ++ "**" ++ "/" ++ last := by
  have hslash : (stem ++ "/" ++ "**").endsWith "/" = false := by
    rw [Bool.eq_false_iff, ne_eq, endsWith_slash_iff]
    rintro ⟨q, hq⟩
    have hchars := congrArg (fun s => s.toList.getLast?) hq
    simp at hchars
  rw [hstem "**" (not_isAbsolute_of_not_mem (by decide)), join,
    not_isAbsolute_of_not_mem hlast.slash_not_mem, hslash]
  simp

/-- The pattern of what is below `p` has the row of `p` and two more names. -/
theorem patternParts_below (h : p ≠ "") (hlast : IsLastName last pieces) :
    isAbsolute (join (join p "**") last) = isAbsolute p ∧
      patternParts (join (join p "**") last) = rowOf p ++ ["**", last] := by
  have hdepth : '/' ∉ "**".toList := by decide
  have habsolute : isAbsolute (join (join p "**") last) = isAbsolute p := by
    rw [isAbsolute_join (join_ne_empty h _) (not_isAbsolute_of_not_mem hlast.slash_not_mem),
      isAbsolute_join h (not_isAbsolute_of_not_mem hdepth)]
  have hparts : parts (join (join p "**") last) =
      (if isAbsolute p then [""] else []) ++ (rowOf p ++ ["**", last]) := by
    obtain ⟨stem, -, hstem, hjoin⟩ := exists_stem h
    rw [join_join hjoin hlast, parts_append_slash, parts_append_slash,
      parts_of_not_mem hlast.slash_not_mem, parts_of_not_mem hdepth, hstem]
    simp
  refine ⟨habsolute, ?_⟩
  rw [patternParts, habsolute, hparts]
  split_ifs <;> simp_all [hlast.ne_empty]

/-- The last two names of the pattern are read as any row of directories and a name. -/
theorem forall₂_depth_last (hlast : IsLastName last pieces) :
    List.Forall₂ (fun part pattern => (Piece.ofText part).map NamePattern.ofPieces = .ok pattern)
      ["**", last] [.anyDepth, .loose pieces] := by
  refine .cons rfl (.cons ?_ .nil)
  rw [hlast.ofText, Except.map, hlast.loose]

/-- The pattern of the paths below `p` whose last name matches `last`. -/
theorem patternOf_below (hplain : IsPlainText p) (h : p ≠ "") (hlast : IsLastName last pieces) :
    patternOf (join (join p "**") last) =
      .ok ((rowOf p).map .plain ++ [.anyDepth, .loose pieces]) := by
  have hwhole : ∃ whole, Piece.ofText (join (join p "**") last) = .ok whole := by
    obtain ⟨stem, hspelled, -, hjoin⟩ := exists_stem h
    have htext : (stem ++ "/" ++ "**" ++ "/" ++ last).toList =
        stem.toList ++ '/' :: '*' :: '*' :: '/' :: last.toList := by simp
    rw [join_join hjoin hlast, Piece.ofText, htext]
    exact Piece.exists_ofChars_append_slash (hplain.of_stem (hspelled.imp And.left And.left))
      hlast.afterDepth _ _
  obtain ⟨whole, hwhole⟩ := hwhole
  refine bind_eq_ok_iff.mpr ⟨whole, hwhole, ?_⟩
  rw [(patternParts_below h hlast).2, mapM_eq_ok_iff]
  refine List.rel_append ?_ (forall₂_depth_last hlast)
  rw [List.forall₂_map_right_iff, List.forall₂_same]
  intro part hpart
  rw [Piece.ofText_of_isPlainText (isPlainText_of_mem_parts hplain (mem_parts_of_mem_rowOf h hpart)),
    Except.map, NamePattern.ofPieces_map_exactly]

/-- Whatever the names of `p` are, they are read one by one. -/
theorem exists_of_patternOf_below (h : p ≠ "") (hlast : IsLastName last pieces)
    {patterns : List NamePattern} (hpatterns : patternOf (join (join p "**") last) = .ok patterns) :
    ∃ front, List.Forall₂
        (fun part pattern => (Piece.ofText part).map NamePattern.ofPieces = .ok pattern)
        (rowOf p) front ∧ patterns = front ++ [.anyDepth, .loose pieces] := by
  obtain ⟨whole, -, hnames⟩ := bind_eq_ok_iff.mp hpatterns
  rw [(patternParts_below h hlast).2, mapM_eq_ok_iff] at hnames
  have hfront := List.forall₂_take (rowOf p).length hnames
  have hback := List.forall₂_drop (rowOf p).length hnames
  rw [List.take_left] at hfront
  rw [List.drop_left] at hback
  have hunique : Relator.RightUnique fun part pattern =>
      (Piece.ofText part).map NamePattern.ofPieces = .ok pattern :=
    fun part first second hfirst hsecond => Except.ok.inj (hfirst.symm.trans hsecond)
  refine ⟨patterns.take (rowOf p).length, hfront, ?_⟩
  rw [← hunique.forall₂ hback (forall₂_depth_last hlast), List.take_append_drop]

/-- What matches the pattern of what is below `p` is found from where `p` starts. -/
theorem glob_below_eq (h : p ≠ "") (hlast : IsLastName last pieces) (d : Disk) :
    d.glob (join (join p "**") last) =
      (patternOf (join (join p "**") last)).map fun patterns => d.expand patterns (base p) := by
  rw [glob, (patternParts_below h hlast).1, ← base]
  cases patternOf (join (join p "**") last) <;> rfl

/-- The paths below `p` whose last name matches `last` are found by following the row of `p`. -/
theorem glob_below (hplain : IsPlainText p) (h : p ≠ "") (hlast : IsLastName last pieces)
    (d : Disk) :
    d.glob (join (join p "**") last) =
      .ok (d.expand ((rowOf p).map .plain ++ [.anyDepth, .loose pieces]) (base p)) := by
  rw [glob_below_eq h hlast, patternOf_below hplain h hlast]
  rfl

end

/-! ## What patterns find -/

section

variable {d : Disk} {p q name : String} {pieces : List Piece} {pattern : NamePattern}
  {patterns : List NamePattern}

/-- A name that leaves nothing open finds what there is under it. -/
theorem mem_expand_name_iff :
    q ∈ d.expand (.plain name :: patterns) p ↔
      (if name = "." || name = ".." then d.isDirectory p
        else d.isThere (continued p name)) = true ∧
        q ∈ d.expand patterns (continued p name) := by
  rw [expand, List.mem_ite_nil_right]

/-- Another name finds the entries of a directory that it matches, and takes the steps that
it matches. -/
theorem mem_expand_loose_iff :
    q ∈ d.expand (.loose pieces :: patterns) p ↔
      (∃ name ∈ d.children p, (NamePattern.loose pieces).takes name = true ∧
        q ∈ d.expand patterns (continued p name)) ∨
      (d.isDirectory p = true ∧ ∃ name ∈ (NamePattern.loose pieces).steps,
        q ∈ d.expand patterns (join p name)) := by
  rw [expand]
  simp only [List.mem_append, List.mem_flatMap, List.mem_filter, List.mem_ite_nil_right, and_assoc]

/-- At any depth a pattern finds the entries below a directory that it matches. -/
theorem mem_expand_depth_iff (h : pattern ≠ .anyDepth) :
    q ∈ d.expand (.anyDepth :: pattern :: patterns) p ↔
      ∃ names e, (names, e) ∈ d.below p ∧ names.getLast?.any pattern.takes = true ∧
        q ∈ d.expand patterns (extended p names) := by
  rw [expand]
  · simp only [List.mem_flatMap, List.mem_filter, Prod.exists, and_assoc, extended]
  · exact h

end

/-! ## Patterns that spell names -/

section

variable {d : Disk} {p q : String} {ps : List String} {patterns : List NamePattern}

/-- What matches below a row of names lies below the path that they make. -/
theorem mem_expand_plain (h : q ∈ d.expand (ps.map .plain ++ patterns) p) :
    q ∈ d.expand patterns (extended p ps) := by
  induction ps generalizing p with
  | nil => exact h
  | cons part ps ih =>
      rw [List.map_cons, List.cons_append] at h
      exact ih (mem_expand_name_iff.mp h).2

/-- Names that lead through directories are followed to the path that they make. -/
theorem expand_plain (h : IsPlainPath p) (hps : ∀ part ∈ ps, '/' ∉ part.toList)
    (hp : d.Reaches p) (hdirectories : ∀ m ∈ passesFrom (place p) ps, d.entry? m = some .directory)
    (hend : d.entry? (walk (place p) ps) = some .directory) :
    d.expand (ps.map .plain ++ patterns) p = d.expand patterns (extended p ps) := by
  induction ps generalizing p with
  | nil => rfl
  | cons part ps ih =>
      rw [List.forall_mem_cons] at hps
      rw [passesFrom, List.forall_mem_cons] at hdirectories
      have hjoin := reaches_join h.ne_empty hps.1 hp hdirectories.1
      have hplace := place_join h.ne_empty hps.1
      have hnext : d.entry? (place (Path.join p part)) = some .directory := by
        cases ps with
        | nil => rw [hplace]; exact hend
        | cons next ps =>
            rw [hplace]
            exact hdirectories.2 _ List.mem_cons_self
      have hhere : d.isDirectory p = true := isDirectory_iff.mpr ⟨hp, hdirectories.1⟩
      have hthere : d.isThere (Path.join p part) = true :=
        isThere_iff.mpr ⟨hjoin, by rw [hnext]; rfl⟩
      have hrest := ih (h.join (not_isAbsolute_of_not_mem hps.1)) hps.2 hjoin
        (hplace ▸ hdirectories.2) (by rw [hplace]; exact hend)
      rw [List.map_cons, List.cons_append, expand, h.continued_eq, hhere, hthere, ite_self,
        if_pos rfl, hrest, extended, extended, List.foldl_cons, h.continued_eq]

/-- A path of names through directories is followed from where it starts. -/
theorem expand_rowOf (patterns : List NamePattern) (h : IsPlainPath p)
    (hp : d.isDirectory p = true) :
    d.expand ((rowOf p).map .plain ++ patterns) (base p) =
        d.expand patterns (extended (base p) (rowOf p)) ∧
      d.Reaches (extended (base p) (rowOf p)) := by
  obtain ⟨hstart, hpasses, hend⟩ := (isDirectory_iff_rowOf h.ne_empty).mp hp
  have hslash : ∀ part ∈ rowOf p, '/' ∉ part.toList := fun part hpart =>
    slash_not_mem_of_mem_rowOf h.ne_empty hpart
  rw [← walk_rowOf h.ne_empty] at hend
  by_cases habsolute : isAbsolute p = true
  · have hbase : IsPlainPath (base p) := by
      rw [base, if_pos habsolute]
      exact isPlainPath_root
    rw [← place_base p] at hpasses hend
    have hreaches := reaches_base p hstart
    exact ⟨expand_plain hbase hslash hreaches hpasses hend,
      reaches_extended hbase hslash hreaches hpasses⟩
  · -- the first step is taken from the working directory
    obtain ⟨first, rest, hrow, hfirst, hone⟩ := h.exists_rowOf (by simpa using habsolute)
    have hbase : base p = "." := if_neg habsolute
    have hhere : start p = [] := if_neg habsolute
    have hplace : place first = stepBy [] first := by
      rw [← walk_parts, start, not_isAbsolute_of_not_mem hone, parts_of_not_mem hone]
      rfl
    rw [hrow, List.forall_mem_cons] at hslash
    rw [hrow, hhere, passesFrom, List.forall_mem_cons, ← hplace] at hpasses
    rw [hrow, hhere, walk, List.foldl_cons, ← walk, ← hplace] at hend
    have hreaches : d.Reaches first := by
      refine ⟨hfirst.ne_empty, ?_⟩
      rw [passes, start, not_isAbsolute_of_not_mem hone, parts_of_not_mem hone]
      exact List.forall_mem_singleton.mpr hpasses.1
    have hnext : d.entry? (place first) = some .directory := by
      cases rest with
      | nil => exact hend
      | cons next rest => exact hpasses.2 _ List.mem_cons_self
    have hworking : d.isDirectory "." = true := hbase ▸ isDirectory_base p hstart
    have hthere : d.isThere first = true := isThere_iff.mpr ⟨hreaches, by rw [hnext]; rfl⟩
    rw [hrow, hbase, extended, List.foldl_cons, continued_dot, List.map_cons, List.cons_append,
      expand, continued_dot, hworking, hthere, ite_self, if_pos rfl,
      expand_plain hfirst hslash.2 hreaches hpasses.2 hend]
    exact ⟨rfl, reaches_extended hfirst hslash.2 hreaches hpasses.2⟩

end

/-! ## What stands below -/

section

variable {d : Disk} {p : String} {names : List String} {e : Entry}

/-- On a tree what is listed below a path has names that lead to it from there. -/
theorem IsTree.of_mem_below (htree : d.IsTree) (h : (names, e) ∈ d.below p) :
    names ≠ [] ∧ (∀ name ∈ names, IsEntryName name) ∧
      ∃ e', d.entry? (place p ++ names) = some e' := by
  unfold below at h
  split at h
  · cases h
  next l hl =>
    obtain ⟨-, rfl⟩ := locate_eq_ok_iff.mp hl
    obtain ⟨⟨k, e'⟩, hmem, hx⟩ := List.mem_filterMap.mp h
    obtain ⟨names', hnames, hpair⟩ := Option.map_eq_some_iff.mp hx
    obtain ⟨rfl, rfl⟩ := Prod.mk.inj hpair
    obtain ⟨rfl, hne, hfirst⟩ := of_namesBelow? hnames
    obtain ⟨e'', hentry⟩ := exists_entry?_of_mem hmem
    exact ⟨hne, (htree.named _ _ hentry).isEntryName hfirst, e'', hentry⟩

theorem mem_below (hp : d.Reaches p) (hne : names ≠ []) (hnames : ∀ name ∈ names, IsEntryName name)
    (h : d.entry? (place p ++ names) = some e) : (names, e) ∈ d.below p := by
  rw [below, locate_eq_ok_iff.mpr ⟨hp, rfl⟩]
  refine List.mem_filterMap.mpr ⟨(place p ++ names, e), mem_entries (by simp [hne]) h, ?_⟩
  rw [namesBelow?_append hne hnames]
  rfl

/-- On a tree the names of an entry lead to it through directories. -/
theorem IsTree.directory_of_mem_passesFrom {l m : Location} (htree : d.IsTree)
    (hnames : ∀ name ∈ names, IsEntryName name) (hentry : d.entry? (l ++ names) = some e)
    (hm : m ∈ passesFrom l names) : d.entry? m = some .directory := by
  obtain ⟨before, after, rfl, hne, rfl⟩ := exists_take_of_mem_passesFrom hm
  rw [← List.append_assoc] at hentry
  rw [walk_names fun name hname => hnames name (List.mem_append_left _ hname)]
  exact htree.directory_of_append hne hentry

/-- On a tree the path of an entry below leads to the entry. -/
theorem IsTree.find_extended_names (htree : d.IsTree) (h : IsPlainPath p) (hp : d.Reaches p)
    (hnames : ∀ name ∈ names, IsEntryName name) (hentry : d.entry? (place p ++ names) = some e) :
    d.find (extended p names) = .ok e := by
  refine find_eq_ok_iff.mpr ⟨?_, ?_⟩
  · apply reaches_extended h (fun name hname => (hnames name hname).2.2.2) hp
    exact fun m hm => htree.directory_of_mem_passesFrom hnames hentry hm
  · rwa [place_of_components (components_extended_names h hnames)]

end

/-! ## Listings -/

section

variable {d : Disk} {root last p q : String} {pieces : List Piece}

/-- The paths that match below `p` are the entries below it with a matching name. -/
theorem mem_expand_below_iff :
    q ∈ d.expand [.anyDepth, .loose pieces] p ↔ ∃ names e, (names, e) ∈ d.below p ∧
      names.getLast?.any (NamePattern.loose pieces).takes = true ∧ q = extended p names := by
  rw [mem_expand_depth_iff (by simp)]
  simp only [expand, List.mem_singleton]

/-- The paths are spelled by the names that lead from `root` down to entries, the last of which
matches the pattern. If `root` leads to a directory then all such entries are listed. -/
structure ListsBelow (d : Disk) (root : String) (pattern : NamePattern)
    (spell : List String → String) (paths : List String) : Prop where
  sound : ∀ q ∈ paths, ∃ names, names ≠ [] ∧ (∀ name ∈ names, IsEntryName name) ∧
    names.getLast?.any pattern.takes = true ∧ q = spell names
  complete : d.isDirectory root = true → ∀ names e, names ≠ [] →
    (∀ name ∈ names, IsEntryName name) → d.entry? (place root ++ names) = some e →
    names.getLast?.any pattern.takes = true → spell names ∈ paths ∧ d.find (spell names) = .ok e

/-- What matches below a path of plain text goes on from that path by the names of an entry
below with a matching last name, and leads to the entry. -/
theorem exists_glob (hplain : IsPlainText root) (hroot : IsPlainPath root)
    (hlast : IsLastName last pieces) :
    ∃ spell : List String → String, (∀ names, (∀ name ∈ names, IsEntryName name) →
        components (spell names) = components root ++ names.map .normal) ∧
      ∀ d : Disk, d.IsTree → ∃ paths, d.glob (join (join root "**") last) = .ok paths ∧
        ListsBelow d root (.loose pieces) spell paths := by
  obtain ⟨hfound, hcomponents⟩ := extended_rowOf hroot
  have hplace := place_eq_of_components hcomponents
  refine ⟨extended (extended (base root) (rowOf root)), fun names hnames => ?_, fun d htree =>
    ⟨_, glob_below hplain hroot.ne_empty hlast d, fun q hq => ?_,
      fun hdirectory names e hne hnames hentry htaken => ?_⟩⟩
  · rw [components_extended_names hfound hnames, hcomponents]
  · obtain ⟨names, e, hbelow, htaken, rfl⟩ := mem_expand_below_iff.mp (mem_expand_plain hq)
    obtain ⟨hne, hnames, -⟩ := htree.of_mem_below hbelow
    exact ⟨names, hne, hnames, htaken, rfl⟩
  · obtain ⟨hexpand, hreaches⟩ := expand_rowOf [.anyDepth, .loose pieces] hroot hdirectory
    rw [← hplace] at hentry
    rw [hexpand]
    exact ⟨mem_expand_below_iff.mpr
      ⟨names, e, mem_below hreaches hne hnames hentry, htaken, rfl⟩,
      htree.find_extended_names hfound hreaches hnames hentry⟩

end

end Rowsmith.Disk

/-
# Parts and places of paths

A path is cut at its slashes, and what it means depends on its components only.
`place` is the location to which the components lead where every step can be
taken; it is the same for all spellings of a path. A path that goes on by names from
another leads to a location below that of the other, and different names lead to
different locations.
-/

import Mathlib.Data.List.DropRight
import Mathlib.Data.List.Induction
import Rowsmith.Proofs.Disk.Location

namespace Rowsmith.Disk

namespace Path

/-! ## Cutting at slashes -/

theorem cutSlashes_append_slash (word cs ds : List Char) :
    cutSlashes word (cs ++ '/' :: ds) = cutSlashes word cs ++ cutSlashes [] ds := by
  induction cs generalizing word with
  | nil => simp [cutSlashes]
  | cons c cs ih =>
      by_cases hc : c = '/'
      · simp [cutSlashes, hc, ih]
      · simp [cutSlashes, hc, ih]

theorem cutSlashes_of_not_mem {word cs : List Char} (h : '/' ∉ cs) :
    cutSlashes word cs = [String.ofList (word.reverse ++ cs)] := by
  induction cs generalizing word with
  | nil => simp [cutSlashes]
  | cons c cs ih =>
      rw [List.mem_cons, not_or] at h
      rw [cutSlashes, if_neg (Ne.symm h.1), ih h.2]
      simp

theorem cutSlashes_ne_nil (word cs : List Char) : cutSlashes word cs ≠ [] := by
  induction cs generalizing word with
  | nil => simp [cutSlashes]
  | cons c cs ih =>
      by_cases hc : c = '/'
      · simp [cutSlashes, hc]
      · simpa [cutSlashes, hc] using ih (c :: word)

/-- The first part goes up to the first slash. -/
theorem head?_cutSlashes (word cs : List Char) :
    (cutSlashes word cs).head? =
      some (String.ofList (word.reverse ++ cs.takeWhile fun c => c ≠ '/')) := by
  induction cs generalizing word with
  | nil => simp [cutSlashes]
  | cons c cs ih =>
      by_cases hc : c = '/'
      · simp [cutSlashes, hc]
      · simp [cutSlashes, hc, ih]

theorem mem_of_mem_cutSlashes {word cs : List Char} {part : String} {c : Char}
    (hpart : part ∈ cutSlashes word cs) (hc : c ∈ part.toList) : c ∈ word ∨ c ∈ cs := by
  induction cs generalizing word with
  | nil =>
      obtain rfl := List.mem_singleton.mp hpart
      exact .inl (by simpa using hc)
  | cons d cs ih =>
      by_cases hd : d = '/'
      · rw [cutSlashes, if_pos hd, List.mem_cons] at hpart
        rcases hpart with rfl | hpart
        · exact .inl (by simpa using hc)
        · exact .inr (List.mem_cons_of_mem _ ((ih hpart).resolve_left List.not_mem_nil))
      · rw [cutSlashes, if_neg hd] at hpart
        rcases ih hpart with hword | hcs
        · rcases List.mem_cons.mp hword with rfl | hword
          · exact .inr List.mem_cons_self
          · exact .inl hword
        · exact .inr (List.mem_cons_of_mem _ hcs)

theorem slash_not_mem_of_mem_cutSlashes {word cs : List Char} {part : String}
    (hword : '/' ∉ word) (hpart : part ∈ cutSlashes word cs) : '/' ∉ part.toList := by
  induction cs generalizing word with
  | nil =>
      obtain rfl := List.mem_singleton.mp hpart
      simpa using hword
  | cons c cs ih =>
      by_cases hc : c = '/'
      · rw [cutSlashes, if_pos hc, List.mem_cons] at hpart
        rcases hpart with rfl | hpart
        · simpa using hword
        · exact ih List.not_mem_nil hpart
      · rw [cutSlashes, if_neg hc] at hpart
        exact ih (by simp [Ne.symm hc, hword]) hpart

theorem parts_ne_nil (p : String) : parts p ≠ [] :=
  cutSlashes_ne_nil [] p.toList

theorem mem_of_mem_parts {p part : String} {c : Char} (hpart : part ∈ parts p)
    (hc : c ∈ part.toList) : c ∈ p.toList :=
  (mem_of_mem_cutSlashes hpart hc).resolve_left List.not_mem_nil

theorem slash_not_mem_of_mem_parts {p part : String} (h : part ∈ parts p) : '/' ∉ part.toList :=
  slash_not_mem_of_mem_cutSlashes List.not_mem_nil h

@[simp]
theorem parts_empty : parts "" = [""] :=
  rfl

theorem parts_of_not_mem {name : String} (h : '/' ∉ name.toList) : parts name = [name] := by
  rw [parts, cutSlashes_of_not_mem h]
  simp

theorem parts_append_slash (p q : String) : parts (p ++ "/" ++ q) = parts p ++ parts q := by
  have htext : (p ++ "/" ++ q).toList = p.toList ++ '/' :: q.toList := by simp
  rw [parts, htext, cutSlashes_append_slash]
  rfl

/-- The parts of joined parts are the parts. -/
theorem parts_intercalate {ps : List String} (hne : ps ≠ [])
    (hps : ∀ part ∈ ps, '/' ∉ part.toList) : parts ("/".intercalate ps) = ps := by
  induction ps with
  | nil => exact absurd rfl hne
  | cons part rest ih =>
      cases rest with
      | nil => simpa using parts_of_not_mem (hps part List.mem_cons_self)
      | cons next rest =>
          have htext : "/".intercalate (part :: next :: rest) =
              part ++ "/" ++ "/".intercalate (next :: rest) := by
            simp [String.intercalate_cons_cons]
          rw [htext, parts_append_slash, parts_of_not_mem (hps part List.mem_cons_self),
            ih (by simp) fun p hp => hps p (List.mem_cons_of_mem _ hp)]
          rfl

theorem isAbsolute_iff {p : String} : isAbsolute p = true ↔ ∃ q, p = "/" ++ q := by
  rw [isAbsolute, String.startsWith_string_iff]
  constructor
  · rintro ⟨cs, hcs⟩
    refine ⟨String.ofList cs, String.toList_inj.mp ?_⟩
    rw [← hcs]
    simp
  · rintro ⟨q, rfl⟩
    simp

/-- Only paths that start at the root start with a slash. -/
theorem head?_parts_ne_empty {p : String} (hne : p ≠ "") (hrelative : isAbsolute p = false) :
    (parts p).head? ≠ some "" := by
  rw [isAbsolute, Bool.eq_false_iff, ne_eq, String.startsWith_string_iff] at hrelative
  have hchars : p.toList ≠ [] := by simpa using hne
  obtain ⟨c, cs, hcs⟩ := List.exists_cons_of_ne_nil hchars
  have hc : c ≠ '/' := by
    rintro rfl
    exact hrelative (by simp [hcs])
  rw [parts, head?_cutSlashes, hcs, List.takeWhile_cons_of_pos (by simpa using hc)]
  simp [← String.toList_inj]

theorem endsWith_slash_iff {p : String} : p.endsWith "/" = true ↔ ∃ q, p = q ++ "/" := by
  rw [String.endsWith_eq_endsWith_toSlice, String.Slice.endsWith_string_iff]
  constructor
  · rintro ⟨cs, hcs⟩
    refine ⟨String.ofList cs, String.toList_inj.mp ?_⟩
    simpa using hcs.symm
  · rintro ⟨q, rfl⟩
    simp

theorem getLast?_cutSlashes_eq_empty {word cs : List Char}
    (h : (cutSlashes word cs).getLast? = some "") :
    word = [] ∧ cs = [] ∨ ∃ ds, cs = ds ++ ['/'] := by
  induction cs generalizing word with
  | nil => exact .inl (by simpa [cutSlashes, ← String.toList_inj] using h)
  | cons c cs ih =>
      rw [cutSlashes] at h
      split at h
      next hc =>
        rw [List.getLast?_cons, Option.some.injEq] at h
        have hlast : (cutSlashes [] cs).getLast? = some "" := by
          cases hrest : (cutSlashes [] cs).getLast? with
          | none => exact absurd (List.getLast?_eq_none_iff.mp hrest) (cutSlashes_ne_nil [] cs)
          | some last => simpa [hrest] using h
        rcases ih hlast with ⟨-, rfl⟩ | ⟨ds, rfl⟩
        · exact .inr ⟨[], by rw [hc]; rfl⟩
        · exact .inr ⟨c :: ds, rfl⟩
      next =>
        rcases ih h with ⟨hword, -⟩ | ⟨ds, rfl⟩
        · cases hword
        · exact .inr ⟨c :: ds, rfl⟩

/-- The last part of a path is not empty unless the path ends with a slash. -/
theorem getLast?_parts_ne_empty {p : String} (hne : p ≠ "") (hslash : p.endsWith "/" = false) :
    (parts p).getLast? ≠ some "" := by
  intro hlast
  rcases getLast?_cutSlashes_eq_empty hlast with ⟨-, hnil⟩ | ⟨ds, hds⟩
  · exact hne (by simpa using hnil)
  · rw [Bool.eq_false_iff, ne_eq, endsWith_slash_iff] at hslash
    exact hslash ⟨String.ofList ds, String.toList_inj.mp (by simpa using hds)⟩

theorem exists_mem_cutSlashes {word cs : List Char} {c : Char} (hc : c ∈ word ∨ c ∈ cs)
    (hslash : c ≠ '/') : ∃ part ∈ cutSlashes word cs, c ∈ part.toList := by
  induction cs generalizing word with
  | nil => exact ⟨_, List.mem_singleton_self _, by simpa using hc⟩
  | cons d cs ih =>
      rw [cutSlashes]
      split
      next hd =>
        rcases hc with hc | hc
        · exact ⟨_, List.mem_cons_self, by simpa using hc⟩
        · have hrest : c ∈ cs := (List.mem_cons.mp hc).resolve_left (hd ▸ hslash)
          obtain ⟨part, hpart, hmem⟩ := ih (.inr hrest)
          exact ⟨part, List.mem_cons_of_mem _ hpart, hmem⟩
      next =>
        apply ih
        rw [List.mem_cons] at hc ⊢
        tauto

/-- Each character of a path but a slash is one of a part. -/
theorem exists_mem_parts {p : String} {c : Char} (hc : c ∈ p.toList) (hslash : c ≠ '/') :
    ∃ part ∈ parts p, c ∈ part.toList :=
  exists_mem_cutSlashes (.inr hc) hslash

/-! ## Components of joined paths -/

theorem ofPart?_of_isEntryName {name : String} (h : IsEntryName name) :
    ofPart? name = some (.normal name) := by
  obtain ⟨hempty, hdot, hdots, -⟩ := h
  unfold ofPart?
  split <;> simp_all

theorem not_isAbsolute_of_not_mem {part : String} (h : '/' ∉ part.toList) :
    isAbsolute part = false := by
  rw [Bool.eq_false_iff, ne_eq, isAbsolute_iff]
  rintro ⟨q, rfl⟩
  exact h (by simp)

/-- The beginning of a path that is no part of it: the root, or a step to the
same directory. -/
theorem components_eq (p : String) :
    components p =
      (if isAbsolute p then [Component.root]
        else if (parts p).head? = some "." then [.current] else []) ++
      (parts p).filterMap ofPart? :=
  rfl

theorem head?_parts_append_slash (p q : String) :
    (parts (p ++ "/" ++ q)).head? = (parts p).head? := by
  obtain ⟨part, rest, hparts⟩ := List.exists_cons_of_ne_nil (parts_ne_nil p)
  simp [parts_append_slash, hparts]

theorem isAbsolute_append {p : String} (q : String) (hp : p ≠ "") :
    isAbsolute (p ++ q) = isAbsolute p := by
  rw [Bool.eq_iff_iff, isAbsolute, isAbsolute, String.startsWith_string_iff,
    String.startsWith_string_iff]
  have hne : p.toList ≠ [] := by simpa using hp
  obtain ⟨c, cs, hcs⟩ := List.exists_cons_of_ne_nil hne
  simp [hcs]

theorem isAbsolute_append_slash {p : String} (q : String) (hp : p ≠ "") :
    isAbsolute (p ++ "/" ++ q) = isAbsolute p := by
  rw [String.append_assoc, isAbsolute_append _ hp]

/-- A path that is continued starts where it started. -/
theorem isAbsolute_join {p q : String} (hp : p ≠ "") (hq : isAbsolute q = false) :
    isAbsolute (join p q) = isAbsolute p := by
  have hempty : p.isEmpty = false := by simpa using hp
  rw [join, hq, hempty, Bool.or_self, if_neg Bool.false_ne_true]
  split
  · exact isAbsolute_append q hp
  · exact isAbsolute_append_slash q hp

/-- The path of the working directory. -/
theorem components_dot : components "." = [.current] := by
  have hslash : '/' ∉ ".".toList := by decide
  rw [components_eq, not_isAbsolute_of_not_mem hslash, parts_of_not_mem hslash]
  rfl

/-- A path that is continued after a slash goes on by the parts of what follows. -/
theorem components_append_slash {p : String} (q : String) (hp : p ≠ "") :
    components (p ++ "/" ++ q) = components p ++ (parts q).filterMap ofPart? := by
  rw [components_eq, components_eq, isAbsolute_append_slash q hp, head?_parts_append_slash,
    parts_append_slash, List.filterMap_append, List.append_assoc]

/-- A slash at the end of a path adds no component. -/
theorem components_slash {p : String} (hp : p ≠ "") : components (p ++ "/") = components p := by
  simpa [ofPart?] using components_append_slash "" hp

theorem components_join {p q : String} (hp : p ≠ "") (hq : isAbsolute q = false) :
    components (join p q) = components p ++ (parts q).filterMap ofPart? := by
  have hempty : p.isEmpty = false := by simpa using hp
  rw [join, hq, hempty, Bool.or_self, if_neg Bool.false_ne_true]
  split
  next hslash =>
    obtain ⟨before, rfl⟩ := endsWith_slash_iff.mp hslash
    by_cases hbefore : before = ""
    · subst hbefore
      have hroot : ∀ r : String, components ("/" ++ r) =
          .root :: (parts r).filterMap ofPart? := by
        intro r
        have habsolute : isAbsolute ("/" ++ r) = true := isAbsolute_iff.mpr ⟨r, rfl⟩
        have hparts : parts ("/" ++ r) = parts "" ++ parts r := by
          simpa only [String.empty_append] using parts_append_slash "" r
        rw [components_eq, if_pos habsolute, hparts, parts_empty]
        rfl
      have hslash := hroot ""
      simp only [String.append_empty, parts_empty, List.filterMap_cons, ofPart?] at hslash
      rw [String.empty_append, hroot q, hslash]
      rfl
    · rw [components_append_slash q hbefore, components_slash hbefore]
  next => exact components_append_slash q hp

/-- A path that is continued by a name has the name as its last component. -/
theorem components_join_name (p : String) {name : String} (h : IsEntryName name) :
    components (join p name) = components p ++ [.normal name] := by
  have hparts := parts_of_not_mem h.2.2.2
  by_cases hp : p = ""
  · subst hp
    have hhead : (parts name).head? ≠ some "." := by simpa [hparts] using h.2.1
    have hjoin : join "" name = name := by simp [join]
    have hempty : components "" = [] := by
      have hrelative : isAbsolute "" = false := by simp [isAbsolute]
      simp [components_eq, hrelative, ofPart?]
    rw [hjoin, hempty, components_eq, not_isAbsolute_of_not_mem h.2.2.2,
      if_neg Bool.false_ne_true, if_neg hhead, hparts, List.filterMap_cons,
      ofPart?_of_isEntryName h]
    rfl
  · rw [components_join hp (not_isAbsolute_of_not_mem h.2.2.2), hparts]
    simp [ofPart?_of_isEntryName h]

/-! ## Beginnings of paths -/

theorem isIdle_iff {part : String} : isIdle part = true ↔ ofPart? part = none := by
  unfold ofPart?
  split <;> simp_all [isIdle]

/-- A path starts with the root, with a step to the same directory or with one of its
parts. -/
theorem components_cases (p : String) :
    (isAbsolute p = true ∧ components p = .root :: (parts p).filterMap ofPart?) ∨
      (isAbsolute p = false ∧ components p = .current :: (parts p).filterMap ofPart?) ∨
      (isAbsolute p = false ∧ (parts p).head? ≠ some "." ∧
        components p = (parts p).filterMap ofPart?) := by
  rw [components_eq]
  by_cases habsolute : isAbsolute p = true
  · exact .inl ⟨habsolute, by rw [if_pos habsolute]; rfl⟩
  · have hrelative : isAbsolute p = false := by simpa using habsolute
    rw [if_neg habsolute]
    by_cases hhead : (parts p).head? = some "."
    · exact .inr (.inl ⟨hrelative, by rw [if_pos hhead]; rfl⟩)
    · exact .inr (.inr ⟨hrelative, hhead, by rw [if_neg hhead]; rfl⟩)

/-- No part of a path stands for its beginning. -/
theorem ne_of_mem_filterMap_ofPart? {ps : List String} {c : Component}
    (h : c ∈ ps.filterMap ofPart?) : c ≠ .root ∧ c ≠ .current := by
  obtain ⟨part, -, hpart⟩ := List.mem_filterMap.mp h
  unfold ofPart? at hpart
  split at hpart <;> (cases hpart; try simp)

/-- The root and a step to the same directory are the first component or none. -/
theorem ne_of_mem_tail_components {p : String} {c : Component} (h : c ∈ (components p).tail) :
    c ≠ .root ∧ c ≠ .current := by
  rcases components_cases p with ⟨-, hp⟩ | ⟨-, hp⟩ | ⟨-, -, hp⟩
  · rw [hp] at h
    exact ne_of_mem_filterMap_ofPart? h
  · rw [hp] at h
    exact ne_of_mem_filterMap_ofPart? h
  · rw [hp] at h
    exact ne_of_mem_filterMap_ofPart? (List.mem_of_mem_tail h)

theorem root_not_mem_tail_components (p : String) : Component.root ∉ (components p).tail :=
  fun h => (ne_of_mem_tail_components h).1 rfl

theorem components_ne_nil {p : String} (h : p ≠ "") : components p ≠ [] := by
  rcases components_cases p with ⟨-, hp⟩ | ⟨-, hp⟩ | ⟨hrelative, hhead, hp⟩
  · simp [hp]
  · simp [hp]
  · obtain ⟨first, rest, hparts⟩ := List.exists_cons_of_ne_nil (parts_ne_nil p)
    have hempty := head?_parts_ne_empty h hrelative
    rw [hparts, List.head?_cons, ne_eq, Option.some.injEq] at hhead hempty
    have hproper : ofPart? first ≠ none := by
      rw [ne_eq, ← isIdle_iff]
      simp [isIdle, hhead, hempty]
    obtain ⟨c, hc⟩ := Option.ne_none_iff_exists'.mp hproper
    simp [hp, hparts, hc]

/-! ## Directories of paths -/

/-- A path starts at the root if its first part is empty and is not the last. -/
theorem isAbsolute_iff_parts {p : String} :
    isAbsolute p = true ↔ ∃ rest, rest ≠ [] ∧ parts p = "" :: rest := by
  constructor
  · intro h
    obtain ⟨q, rfl⟩ := isAbsolute_iff.mp h
    refine ⟨parts q, parts_ne_nil q, ?_⟩
    have hparts := parts_append_slash "" q
    rwa [String.empty_append, parts_empty] at hparts
  · rintro ⟨rest, hne, hparts⟩
    by_contra habsolute
    have hempty : p ≠ "" := by
      rintro rfl
      rw [parts_empty, List.cons.injEq] at hparts
      exact hne hparts.2.symm
    refine head?_parts_ne_empty hempty (by simpa using habsolute) ?_
    rw [hparts]
    rfl

theorem filterMap_rdropWhile_isIdle (ps : List String) :
    (ps.rdropWhile isIdle).filterMap ofPart? = ps.filterMap ofPart? := by
  induction ps using List.reverseRecOn with
  | nil => rfl
  | append_singleton ps part ih =>
      by_cases hpart : isIdle part = true
      · rw [List.rdropWhile_concat_pos _ _ _ hpart, ih, List.filterMap_append]
        simp [isIdle_iff.mp hpart]
      · rw [List.rdropWhile_concat_neg _ _ _ hpart]

/-- The beginning of a path that is no part of it can be told from its parts. -/
theorem start_eq_of_prefix {p q : String} (hstarts : parts q <+: parts p)
    (hlast : ∀ hne : parts q ≠ [], isIdle ((parts q).getLast hne) = false) :
    isAbsolute q = isAbsolute p ∧ (parts q).head? = (parts p).head? := by
  obtain ⟨after, hafter⟩ := hstarts
  obtain ⟨first, rest, hparts⟩ := List.exists_cons_of_ne_nil (parts_ne_nil q)
  have hlast := hlast (parts_ne_nil q)
  simp only [hparts] at hlast
  rw [hparts] at hafter
  refine ⟨?_, by rw [hparts, ← hafter]; rfl⟩
  rw [Bool.eq_iff_iff, isAbsolute_iff_parts, isAbsolute_iff_parts, hparts, ← hafter]
  cases rest with
  | nil =>
      have hfirst : first ≠ "" := by
        rintro rfl
        cases hlast
      simp [hfirst]
  | cons next rest => simp

/-- The first parts of a path, up to one that is a step, begin as the path does. -/
theorem components_intercalate_of_prefix {p : String} {kept : List String} (hne : kept ≠ [])
    (hstarts : kept <+: parts p) (hproper : isIdle (kept.getLast hne) = false) :
    components ("/".intercalate kept) =
      (if isAbsolute p then [Component.root]
        else if (parts p).head? = some "." then [.current] else []) ++
        kept.filterMap ofPart? := by
  have hparts : parts ("/".intercalate kept) = kept :=
    parts_intercalate hne fun part hpart => slash_not_mem_of_mem_parts (hstarts.subset hpart)
  obtain ⟨habsolute, hhead⟩ := start_eq_of_prefix (p := p) (hparts ▸ hstarts) fun _ => by
    simpa [hparts] using hproper
  rw [components_eq, habsolute, hhead, hparts]

/-- The parts up to the last step of a path, which is a name, give the components before it. -/
theorem exists_rdropWhile_of_components {p name : String} {cs : List Component}
    (hp : components p = cs ++ [.normal name]) :
    ∃ before part, (parts p).rdropWhile isIdle = before ++ [part] ∧
      (if isAbsolute p then [Component.root]
        else if (parts p).head? = some "." then [.current] else []) ++
        (before.rdropWhile isIdle).filterMap ofPart? = cs := by
  rw [components_eq, ← filterMap_rdropWhile_isIdle] at hp
  rcases List.eq_nil_or_concat ((parts p).rdropWhile isIdle) with hback | ⟨before, part, hback⟩
  · -- no part is left, but the beginning of a path has no name
    rw [hback, List.filterMap_nil, List.append_nil] at hp
    have hmem : Component.normal name ∈ cs ++ [.normal name] := by simp
    rw [← hp] at hmem
    split at hmem
    · simp at hmem
    · split at hmem <;> simp at hmem
  · rw [List.concat_eq_append] at hback
    refine ⟨before, part, hback, ?_⟩
    have hidle : isIdle part = false := by
      have hne : (parts p).rdropWhile isIdle ≠ [] := by simp [hback]
      have hpart := List.rdropWhile_last_not isIdle (parts p) hne
      simpa [hback] using hpart
    obtain ⟨c, hc⟩ : ∃ c, ofPart? part = some c := by
      rw [← Option.isSome_iff_exists, ← Option.ne_none_iff_isSome, ne_eq, ← isIdle_iff, hidle]
      simp
    rw [filterMap_rdropWhile_isIdle]
    rw [hback, List.filterMap_append, ← List.append_assoc] at hp
    exact (List.append_inj' hp (by simp [hc])).1

/-- The directory of a path whose last step is a name has the parts before it, and if there are
none the beginning of the path alone. -/
theorem parent?_eq {p name part : String} {before : List String}
    (hlast : (components p).getLast? = some (.normal name))
    (hback : (parts p).rdropWhile isIdle = before ++ [part]) :
    parent? p = some ("/".intercalate
      (match before.rdropWhile isIdle with
        | [] => if isAbsolute p then ["", ""] else if (parts p).head? = some "." then ["."] else []
        | kept => kept)) := by
  have hkept : (((parts p).reverse.dropWhile isIdle).drop 1).dropWhile isIdle =
      (before.rdropWhile isIdle).reverse := by
    rw [← List.reverse_reverse ((parts p).reverse.dropWhile isIdle), ← List.rdropWhile, hback]
    simp [List.rdropWhile]
  simp only [parent?, hlast, reduceCtorEq, if_false, hkept, List.reverse_reverse]
  cases before.rdropWhile isIdle <;> simp

/-- The directory of a path has the components before the last. -/
theorem components_parent? {p q name : String} {cs : List Component}
    (hp : components p = cs ++ [.normal name]) (hq : parent? p = some q) : components q = cs := by
  have hlast : (components p).getLast? = some (.normal name) := by rw [hp, List.getLast?_concat]
  obtain ⟨before, part, hback, hcs⟩ := exists_rdropWhile_of_components hp
  rw [parent?_eq hlast hback, Option.some.injEq] at hq
  have hstarts : before.rdropWhile isIdle <+: parts p :=
    (List.rdropWhile_prefix isIdle before).trans <|
      ((hback ▸ List.prefix_append before [part]).trans (List.rdropWhile_prefix isIdle (parts p)))
  have hproper := List.rdropWhile_last_not isIdle before
  rw [← hcs, ← hq]
  generalize before.rdropWhile isIdle = kept at hstarts hproper ⊢
  cases kept with
  | nil =>
      dsimp only
      split
      next => decide +kernel
      next =>
        split
        next => decide +kernel
        next => decide +kernel
  | cons first rest =>
      refine components_intercalate_of_prefix (List.cons_ne_nil first rest) hstarts ?_
      simpa using hproper (List.cons_ne_nil first rest)

/-! ## Places -/

/-- The location to which a component leads from the location `l`. -/
def stepTo (l : Location) : Component → Location
  | .root => ["/"]
  | .current => l
  | .parent => above l
  | .normal name => l ++ [name]

/-- The location to which components lead from the location `l`. -/
def placeFrom (l : Location) (cs : List Component) : Location :=
  cs.foldl stepTo l

/-- The location to which a path leads where every step can be taken. -/
def place (p : String) : Location :=
  placeFrom [] (components p)

theorem placeFrom_append (l : Location) (cs ds : List Component) :
    placeFrom l (cs ++ ds) = placeFrom (placeFrom l cs) ds :=
  List.foldl_append

/-- Components lead from a location to a location. -/
theorem isLocation_placeFrom {l : Location} {cs : List Component} (h : IsLocation l)
    (hcs : ∀ name, .normal name ∈ cs → IsEntryName name) : IsLocation (placeFrom l cs) := by
  induction cs generalizing l with
  | nil => exact h
  | cons c cs ih =>
      refine ih ?_ fun name hname => hcs name (List.mem_cons_of_mem _ hname)
      cases c with
      | root => exact .root
      | current => exact h
      | parent => exact h.above
      | normal name => exact .entry h (hcs name List.mem_cons_self)

theorem isEntryName_of_mem_filterMap {ps : List String} (hps : ∀ part ∈ ps, '/' ∉ part.toList)
    {name : String} (h : .normal name ∈ ps.filterMap ofPart?) : IsEntryName name := by
  obtain ⟨part, hpart, hname⟩ := List.mem_filterMap.mp h
  unfold ofPart? at hname
  split at hname
  · cases hname
  · cases hname
  · cases hname
  next hempty hdot hparent =>
    cases hname
    exact ⟨hempty, hdot, hparent, hps _ hpart⟩

theorem isEntryName_of_mem_components {p name : String} (h : .normal name ∈ components p) :
    IsEntryName name := by
  rw [components_eq, List.mem_append] at h
  rcases h with hbeginning | hname
  · split_ifs at hbeginning <;> simp at hbeginning
  · exact isEntryName_of_mem_filterMap (fun part hpart => slash_not_mem_of_mem_parts hpart) hname

/-- The place of a path is a location. -/
theorem isLocation_place (p : String) : IsLocation (place p) :=
  isLocation_placeFrom .working fun _ => isEntryName_of_mem_components

@[simp]
theorem placeFrom_map_normal (l : Location) (names : List String) :
    placeFrom l (names.map .normal) = l ++ names := by
  induction names generalizing l with
  | nil => simp [placeFrom]
  | cons name names ih =>
      rw [List.map_cons, placeFrom, List.foldl_cons]
      exact (ih (l ++ [name])).trans (by simp)

/-- A path leads at least as far as its first components do, unless steps lead upwards. -/
theorem length_placeFrom_le {cs : List Component} (hroot : .root ∉ cs) (hparent : .parent ∉ cs)
    (l : Location) : l.length ≤ (placeFrom l cs).length := by
  induction cs generalizing l with
  | nil => exact le_rfl
  | cons c cs ih =>
      rw [List.mem_cons, not_or] at hroot hparent
      refine le_trans ?_ (ih hroot.2 hparent.2 (stepTo l c))
      cases c with
      | root => exact absurd rfl hroot.1
      | current => exact le_rfl
      | parent => exact absurd rfl hparent.1
      | normal name => simp [stepTo]

theorem same_iff {p q : String} : same p q = true ↔ components p = components q := by
  simp [same]

theorem place_eq_of_components {p q : String} (h : components p = components q) :
    place p = place q := by
  rw [place, h, place]

/-- Two spellings of a path lead to one place. -/
theorem place_eq_of_same {p q : String} (h : same p q = true) : place p = place q :=
  place_eq_of_components (same_iff.mp h)

/-- The path `p` goes on from `out` by names. -/
def IsBelow (out p : String) : Prop :=
  ∃ names : List String, names ≠ [] ∧ components p = components out ++ names.map .normal

theorem place_of_components {out p : String} {names : List String}
    (h : components p = components out ++ names.map .normal) : place p = place out ++ names := by
  rw [place, h, placeFrom_append, placeFrom_map_normal]
  rfl

/-- A path that goes on from another leads to a location below. -/
theorem IsBelow.isUnder {out p : String} (h : IsBelow out p) : IsUnder (place out) (place p) := by
  obtain ⟨names, hne, hp⟩ := h
  refine ⟨names, hne, fun name hname => ?_, place_of_components hp⟩
  apply isEntryName_of_mem_components (p := p)
  rw [hp]
  exact List.mem_append_right _ (List.mem_map_of_mem hname)

/-- Names that go on from a path can be told from the place to which they lead. -/
theorem same_iff_place_eq {out p q : String} (hp : IsBelow out p) (hq : IsBelow out q) :
    same p q = true ↔ place p = place q := by
  obtain ⟨names, -, hp⟩ := hp
  obtain ⟨names', -, hq⟩ := hq
  rw [same_iff, hp, hq, place_of_components hp, place_of_components hq,
    List.append_cancel_left_eq, List.append_cancel_left_eq]
  exact List.map_inj_right fun _ _ => Component.normal.inj

end Path

end Rowsmith.Disk

/-
# Where written paths lead

A path without arguments is looked up in two steps: a first name that a `use` item
binds is replaced by the path it is bound to, and what results is read from the
outermost module, with `self` and `super` at its start taken relative to the module
it stands in.

Both steps are compared with what they stand for. A name that is bound to a path may
be written out (`classify_bound`), up to the text that is kept of a path that names no
type at all. A path that starts at `self` or goes up by `super` names what lies there
(`classify_relative_iff`), unless it does both: after `self` the steps upwards are
taken for names.
-/

import Mathlib.Data.List.Basic
import Rowsmith.Declaration.Collect
import Rowsmith.Proofs.Declaration.Set
import Rowsmith.Proofs.Text.Segments

namespace Rowsmith

open Source Text

namespace Source.Path

/-- The names of a path without their marks. -/
def names (path : Path) : List String :=
  path.segments.map fun segment => segment.name.text

/-- No name of the path has arguments. -/
def IsPlain (path : Path) : Prop :=
  ∀ segment ∈ path.segments, segment.arguments = none

end Source.Path

/-- The path of some names. -/
def Source.Path.ofNames (names : List Name) : Path :=
  ⟨false, names.map fun n => ⟨n, none⟩⟩

theorem Source.Path.isPlain_ofNames (names : List Name) : (Path.ofNames names).IsPlain := by
  intro segment hsegment
  obtain ⟨n, -, rfl⟩ := List.mem_map.mp hsegment
  rfl

namespace Scope

/-! ## Plain paths -/

/-- What the type at a path from the outermost module is; `text` is the type as written. -/
def placed (full : List String) (text : String) : TypeRef :=
  match full.getLast?, full.dropLast with
  | some name, parent :: above => .named ⟨joinSegments (parent :: above), name⟩
  | _, _ => .unsupported text

theorem placed_concat {above : List String} (habove : above ≠ []) (name text : String) :
    placed (above ++ [name]) text = .named ⟨joinSegments above, name⟩ := by
  obtain ⟨parent, rest, rfl⟩ := List.exists_cons_of_ne_nil habove
  rw [placed, List.getLast?_concat, List.dropLast_concat]

/-- A path of two names or more leads to a declaration. -/
theorem exists_placed_eq {full : List String} (h : 2 ≤ full.length) :
    ∃ path, ∀ text, placed full text = .named path := by
  have hne : full ≠ [] := by
    rintro rfl
    simp at h
  have habove : full.dropLast ≠ [] := by
    apply List.ne_nil_of_length_pos
    rw [List.length_dropLast]
    omega
  refine ⟨⟨joinSegments full.dropLast, full.getLast hne⟩, fun text => ?_⟩
  rw [← placed_concat habove, List.dropLast_append_getLast hne]

theorem placed_of_length_le {full : List String} (h : full.length ≤ 1) (text : String) :
    placed full text = .unsupported text := by
  match full, h with
  | [], _ => rfl
  | [name], _ => rfl

/-- The kind of a plain path that is the name of a primitive kind, as written or with what its
first name is bound to. -/
def primitive? (s : Scope) (names : List String) : Option Primitive :=
  (Primitive.ofTypeName? (joinSegments names)).or
    (Primitive.ofTypeName? (joinSegments (s.expand names)))

/-- Only the names of a plain path matter, and its text where it leads nowhere. -/
theorem classify_path_eq {s : Scope} {path : Path} {names : List String} {tokens : List Token}
    (hplain : path.IsPlain) (hnames : path.names = names) (hne : names ≠ [])
    (hscalar : ∀ name, names = [name] → name ∉ unsupportedScalars) :
    s.classify (.path path tokens) =
      match s.primitive? names with
      | some kind => .primitive kind
      | none => placed (s.absolute (s.expand names)) (Token.compact tokens) := by
  subst hnames
  have hsegments : path.segments ≠ [] := fun h => hne (by rw [Path.names, h, List.map_nil])
  have hlast : path.segments.getLast? = some (path.segments.getLast hsegments) :=
    List.getLast?_eq_some_getLast hsegments
  have hnone := hplain _ (List.getLast_mem hsegments)
  have hsupported : ¬ (path.names.length = 1 ∧
      unsupportedScalars.contains (path.segments.getLast hsegments).name.text = true) := by
    rintro ⟨hlength, hmem⟩
    rw [Path.names, List.length_map] at hlength
    obtain ⟨segment, hsegment⟩ := List.length_eq_one_iff.mp hlength
    apply hscalar segment.name.text (by rw [Path.names, hsegment, List.map_singleton])
    simpa [hsegment] using hmem
  rw [classify, classifyPath, hlast]
  simp only [hnone]
  rw [← Path.names, if_neg hsupported]
  rfl

/-- A longer plain path is no name of a type that no column can have. -/
theorem classify_path_eq_of_two_le {s : Scope} {path : Path} {names : List String}
    {tokens : List Token} (hplain : path.IsPlain) (hnames : path.names = names)
    (hlong : 2 ≤ names.length) :
    s.classify (.path path tokens) =
      match s.primitive? names with
      | some kind => .primitive kind
      | none => placed (s.absolute (s.expand names)) (Token.compact tokens) := by
  refine classify_path_eq hplain hnames (List.ne_nil_of_length_pos (by omega)) fun name hname => ?_
  rw [hname, List.length_singleton] at hlong
  omega

/-- The names that stand for primitive kinds. -/
def primitiveNames : List String :=
  ["bool", "i32", "i64", "f32", "f64", "String", "std::string::String", "alloc::string::String",
    "NaiveDateTime", "chrono::NaiveDateTime", "dbcrud::chrono::NaiveDateTime"]

theorem mem_primitiveNames_of_ofTypeName? {text : String} {kind : Primitive}
    (h : Primitive.ofTypeName? text = some kind) : text ∈ primitiveNames := by
  unfold Primitive.ofTypeName? at h
  split at h <;> simp [primitiveNames] at h ⊢

/-- No name of a primitive kind starts with a step that is relative to a module. -/
theorem ofTypeName?_relative {first : String} (hfirst : first = "self" ∨ first = "super")
    {rest : List String} (hrest : rest ≠ []) :
    Primitive.ofTypeName? (joinSegments (first :: rest)) = none := by
  have htext : (joinSegments (first :: rest)).toList =
      first.toList ++ ':' :: ':' :: (joinSegments rest).toList := by
    rw [joinSegments, String.intercalate_cons_of_ne_nil hrest]
    simp [joinSegments]
  have hstart : ∀ name ∈ primitiveNames,
      name.toList.take 2 ≠ ['s', 'e'] ∧ name.toList.take 2 ≠ ['s', 'u'] := by
    decide +kernel
  apply Option.eq_none_iff_forall_ne_some.mpr
  intro kind hkind
  have hother := hstart _ (mem_primitiveNames_of_ofTypeName? hkind)
  rw [htext] at hother
  rcases hfirst with rfl | rfl
  · exact hother.1 rfl
  · exact hother.2 rfl

/-! ## Steps upwards -/

/-- The steps of a path all lead upwards, and as far as the outermost module. -/
def LeadsOut (s : Scope) (names : List String) : Prop :=
  (∀ step ∈ names, step = "super") ∧ (segments s.module).length ≤ names.length + 1

theorem length_ascend_le_one_iff {module : List String} (hmodule : module ≠ [])
    (path : List String) :
    (ascend module path).length ≤ 1 ↔
      (∀ step ∈ path, step = "super") ∧ module.length ≤ path.length + 1 := by
  induction path generalizing module with
  | nil => simp [ascend]
  | cons step rest ih =>
      have hpos : 0 < module.length := List.length_pos_iff.mpr hmodule
      rw [ascend, List.forall_mem_cons, List.length_cons]
      by_cases hstep : step = "super"
      · by_cases hlong : module.length > 1
        · have hne : module.dropLast ≠ [] := by
            apply List.ne_nil_of_length_pos
            rw [List.length_dropLast]
            omega
          rw [if_pos hstep, if_pos hlong, ih hne, List.length_dropLast, and_iff_right hstep]
          refine and_congr_right fun _ => ?_
          omega
        · rw [if_pos hstep, if_neg hlong, ih hmodule, and_iff_right hstep]
          refine and_congr_right fun _ => ?_
          omega
      · rw [if_neg hstep, List.length_append, List.length_cons]
        refine iff_of_false ?_ fun h => hstep h.1.1
        omega

theorem length_absolute_le_one_iff {s : Scope} {names : List String} (h : 2 ≤ names.length) :
    (s.absolute names).length ≤ 1 ↔ s.LeadsOut names := by
  have hmodule : segments s.module ≠ [] := segments_ne_nil s.module
  have hpos : 0 < (segments s.module).length := List.length_pos_iff.mpr hmodule
  unfold absolute
  split
  next rest =>
    refine iff_of_false (by omega) fun hout => ?_
    exact absurd (hout.1 "crate" List.mem_cons_self) (by decide)
  next rest =>
    rw [List.length_cons] at h
    refine iff_of_false ?_ fun hout => ?_
    · rw [List.length_append]
      omega
    · exact absurd (hout.1 "self" List.mem_cons_self) (by decide)
  next => exact length_ascend_le_one_iff hmodule names

/-- As many steps upwards as there are modules around leave what is left of the module. -/
theorem ascend_replicate_append {module : List String} {n : Nat} (hn : n < module.length)
    (rest : List String) :
    ascend module (List.replicate n "super" ++ rest) =
      ascend (module.take (module.length - n)) rest := by
  induction n generalizing module with
  | zero => simp
  | succ n ih =>
      have hlong : module.length > 1 := by omega
      have hshorter : n < module.dropLast.length := by
        rw [List.length_dropLast]
        omega
      have htake : module.dropLast.take (module.dropLast.length - n) =
          module.take (module.length - (n + 1)) := by
        rw [List.length_dropLast, List.dropLast_eq_take, List.take_take]
        congr 1
        omega
      rw [List.replicate_succ, List.cons_append, ascend, if_pos rfl, if_pos hlong, ih hshorter,
        htake]

theorem ascend_of_head?_ne {module rest : List String} (h : rest.head? ≠ some "super") :
    ascend module rest = module ++ rest := by
  cases rest with
  | nil => simp [ascend]
  | cons step rest =>
      have hstep : step ≠ "super" := fun hstep => h (by rw [hstep, List.head?_cons])
      rw [ascend, if_neg hstep]

/-! ## Bound names -/

theorem expand_cons_of_bound {s : Scope} {name : String} {path : List String}
    (h : s.get? name = some path) (rest : List String) :
    s.expand (name :: rest) = path ++ rest := by
  rw [expand, h]

theorem expand_cons_of_unbound {s : Scope} {first : String} (h : s.get? first = none)
    (rest : List String) : s.expand (first :: rest) = first :: rest := by
  rw [expand, h]

theorem primitive?_relative {s : Scope} {first : String} {rest : List String}
    (hfirst : first = "self" ∨ first = "super") (hfree : s.get? first = none)
    (hrest : rest ≠ []) : s.primitive? (first :: rest) = none := by
  rw [primitive?, expand_cons_of_unbound hfree, ofTypeName?_relative hfirst hrest, Option.or_self]

/-- A name that is bound to a path may be written out: a plain path that starts with the name is
classified like the one that starts with the path instead. Only where all steps of the path lead
upwards, as far as the outermost module, does it stand for no type, and then either of the two is
kept as it is written. -/
theorem classify_bound {s : Scope} {name first : String} {p rest : List String}
    {path full : Path} {tokens fullTokens : List Token}
    (hbound : s.get? name = some (first :: p)) (hlong : p ≠ []) (hfree : s.get? first = none)
    (hnames : path.names = name :: rest) (hplain : path.IsPlain)
    (hfullNames : full.names = first :: p ++ rest) (hfullPlain : full.IsPlain)
    (hkind : Primitive.ofTypeName? (joinSegments (name :: rest)) = none)
    (hscalar : rest = [] → name ∉ unsupportedScalars) :
    (¬ s.LeadsOut (first :: p ++ rest) →
      s.classify (.path path tokens) = s.classify (.path full fullTokens)) ∧
    (s.LeadsOut (first :: p ++ rest) →
      s.classify (.path path tokens) = .unsupported (Token.compact tokens) ∧
        s.classify (.path full fullTokens) = .unsupported (Token.compact fullTokens)) := by
  have hmore : p ++ rest ≠ [] := List.append_ne_nil_of_left_ne_nil hlong rest
  have hlength : 2 ≤ (first :: p ++ rest).length := by
    have hpos := List.length_pos_iff.mpr hmore
    rw [List.cons_append, List.length_cons]
    omega
  have hexpand : s.expand (name :: rest) = first :: p ++ rest := expand_cons_of_bound hbound rest
  have hfullExpand : s.expand (first :: p ++ rest) = first :: p ++ rest :=
    expand_cons_of_unbound hfree (p ++ rest)
  -- both are the same primitive kind or none, and lead to the same place
  have hsame : s.primitive? (name :: rest) = s.primitive? (first :: p ++ rest) := by
    rw [primitive?, primitive?, hexpand, hfullExpand, hkind, Option.none_or, Option.or_self]
  have hsupported : ∀ only, name :: rest = [only] → only ∉ unsupportedScalars := by
    intro only honly
    rw [List.cons.injEq] at honly
    exact honly.1 ▸ hscalar honly.2
  rw [classify_path_eq hplain hnames (by simp) hsupported, hexpand, hsame,
    classify_path_eq_of_two_le hfullPlain hfullNames hlength, hfullExpand]
  constructor
  · intro hout
    have htwo : 2 ≤ (s.absolute (first :: p ++ rest)).length := by
      have hmore := mt (length_absolute_le_one_iff hlength).mp hout
      omega
    obtain ⟨place, hplace⟩ := exists_placed_eq htwo
    rw [hplace, hplace]
  · intro hout
    have hfirst : first = "super" := hout.1 first List.mem_cons_self
    have hnone : s.primitive? (first :: p ++ rest) = none :=
      primitive?_relative (.inr hfirst) hfree hmore
    have hone := (length_absolute_le_one_iff hlength).mpr hout
    rw [hnone, placed_of_length_le hone, placed_of_length_le hone]
    exact ⟨rfl, rfl⟩

/-- A scope with other names for the module beside its own one and for the outermost one. -/
def coinScope : Scope where
  module := "crate::shop::orders"
  bindings := [("coins", ["super", "money"]), ("root", ["super", "super"])]

/-- `coins::Cents` -/
def coinsCents : Path :=
  .ofNames [⟨"coins", false, by decide⟩, ⟨"Cents", false, by decide⟩]

/-- `super::money::Cents` -/
def moneyCents : Path :=
  .ofNames [⟨"super", false, by decide⟩, ⟨"money", false, by decide⟩, ⟨"Cents", false, by decide⟩]

theorem classify_bound_coins :
    coinScope.get? "coins" = some ["super", "money"] ∧ coinScope.get? "super" = none ∧
      coinsCents.names = ["coins", "Cents"] ∧ moneyCents.names = ["super", "money", "Cents"] ∧
      Primitive.ofTypeName? (joinSegments ["coins", "Cents"]) = none ∧
      coinScope.classify (.path coinsCents []) = coinScope.classify (.path moneyCents []) ∧
      coinScope.classify (.path moneyCents []) = .named ⟨"crate::shop::money", "Cents"⟩ := by
  have hbound : coinScope.get? "coins" = some ["super", "money"] := by decide
  have hkind : Primitive.ofTypeName? (joinSegments ["coins", "Cents"]) = none := by
    decide +kernel
  have hout : ¬ coinScope.LeadsOut ["super", "money", "Cents"] := fun h =>
    absurd (h.1 "money" (by simp)) (by decide)
  have hsame : coinScope.classify (.path coinsCents []) =
      coinScope.classify (.path moneyCents []) :=
    (classify_bound hbound (by simp) (by decide) rfl (Path.isPlain_ofNames _) rfl
      (Path.isPlain_ofNames _) hkind (by simp)).1 hout
  exact ⟨hbound, by decide, rfl, rfl, hkind, hsame, by decide +kernel⟩

/-- `root` -/
def rootName : Path :=
  .ofNames [⟨"root", false, by decide⟩]

/-- `super::super` -/
def rootPath : Path :=
  .ofNames [⟨"super", false, by decide⟩, ⟨"super", false, by decide⟩]

/-- A module under another name is no type. What is kept of it is how it is written, and that
differs from the path that the name is bound to. -/
theorem root_kept_as_written :
    coinScope.get? "root" = some ["super", "super"] ∧ coinScope.get? "super" = none ∧
      rootName.names = ["root"] ∧ rootPath.names = ["super", "super"] ∧
      Primitive.ofTypeName? "root" = none ∧ "root" ∉ unsupportedScalars ∧
      coinScope.classify (.path rootName [.name ⟨"root", false, by decide⟩]) ≠
        coinScope.classify (.path rootPath [.name ⟨"super", false, by decide⟩, .punct ':' true,
          .punct ':' false, .name ⟨"super", false, by decide⟩]) ∧
      Collect.source "crate::shop::orders"
        "use super::super as root; type A = root; type B = super::super;" .empty =
        .ok (.insertAll {} [⟨⟨"crate::shop::orders", "A"⟩, .synonym (.unsupported "root")⟩,
          ⟨⟨"crate::shop::orders", "B"⟩, .synonym (.unsupported "super::super")⟩]) := by
  refine ⟨by decide, by decide, rfl, rfl, by decide +kernel, by decide, ?_, ?_⟩
  · decide +kernel
  · decide +kernel

/-! ## Relative paths -/

/-- A name in a path that does not say where the path starts. -/
structure IsOrdinary (name : String) : Prop where
  not_self : name ≠ "self"
  not_super : name ≠ "super"
  no_colon : ':' ∉ name.toList

instance (name : String) : Decidable (IsOrdinary name) :=
  decidable_of_iff (name ≠ "self" ∧ name ≠ "super" ∧ ':' ∉ name.toList)
    ⟨fun ⟨hself, hsuper, hcolon⟩ => ⟨hself, hsuper, hcolon⟩,
      fun ⟨hself, hsuper, hcolon⟩ => ⟨hself, hsuper, hcolon⟩⟩

/-- A path that is written relative to the module it stands in: perhaps `self`, then steps
upwards, then names. -/
structure RelativePath where
  startsAtSelf : Bool
  /-- Number of steps upwards. -/
  ascents : Nat
  /-- The names after the steps, up to the last. -/
  middle : List String
  last : String
  isRelative : startsAtSelf = true ∨ 0 < ascents
  isOrdinary : ∀ name ∈ middle ++ [last], IsOrdinary name

namespace RelativePath

/-- The first step. -/
def first (w : RelativePath) : String :=
  if w.startsAtSelf then "self" else "super"

/-- The path as it is written. -/
def names (w : RelativePath) : List String :=
  (if w.startsAtSelf then ["self"] else []) ++ List.replicate w.ascents "super" ++
    w.middle ++ [w.last]

/-- The module in which the last name is, for a path in the module `above` below the
outermost. -/
def module (above : List String) (w : RelativePath) : List String :=
  "crate" :: above.take (above.length - w.ascents) ++ w.middle

end RelativePath

/-- The type is the one that the relative path means in the module `above` below the outermost,
and no step relative to a module is left in it. -/
structure IsAnchored (above : List String) (w : RelativePath) (type : TypeRef) : Prop where
  named : type = .named ⟨joinSegments (w.module above), w.last⟩
  ordinary : (∀ name ∈ above, IsOrdinary name) → ∀ path, type = .named path →
    ∀ name ∈ segments path.module ++ [path.name], IsOrdinary name

theorem isAnchored_named {above : List String} (w : RelativePath) :
    IsAnchored above w (.named ⟨joinSegments (w.module above), w.last⟩) := by
  refine ⟨rfl, fun habove path hpath name hname => ?_⟩
  cases hpath
  have hmodule : ∀ name ∈ w.module above, IsOrdinary name := by
    intro name hname
    rw [RelativePath.module, List.cons_append, List.mem_cons, List.mem_append] at hname
    rcases hname with rfl | hname | hname
    · exact ⟨by decide, by decide, by decide⟩
    · exact habove name (List.mem_of_mem_take hname)
    · exact w.isOrdinary name (List.mem_append_left _ hname)
  rw [segments_joinSegments (by simp [RelativePath.module])
    fun name hname => (hmodule name hname).no_colon] at hname
  rcases List.mem_append.mp hname with hname | hname
  · exact hmodule name hname
  · exact w.isOrdinary name (List.mem_append_right _ hname)

namespace RelativePath

theorem exists_names_eq_cons (w : RelativePath) :
    ∃ rest, rest ≠ [] ∧ w.names = w.first :: rest := by
  cases hself : w.startsAtSelf with
  | true =>
      refine ⟨List.replicate w.ascents "super" ++ w.middle ++ [w.last], by simp, ?_⟩
      simp [names, first, hself]
  | false =>
      have hpos : 0 < w.ascents := w.isRelative.resolve_left (by simp [hself])
      obtain ⟨n, hn⟩ : ∃ n, w.ascents = n + 1 := ⟨w.ascents - 1, by omega⟩
      refine ⟨List.replicate n "super" ++ w.middle ++ [w.last], by simp, ?_⟩
      simp [names, first, hself, hn, List.replicate_succ]

theorem module_of_not_ascents {w : RelativePath} (h : w.ascents = 0) (above : List String) :
    w.module above = "crate" :: above ++ w.middle := by
  rw [module, h, Nat.sub_zero, List.take_length]

/-- Names in place of steps upwards make another module. -/
theorem joinSegments_module_ne {w : RelativePath} (h : 0 < w.ascents) (above : List String) :
    joinSegments ("crate" :: above ++ List.replicate w.ascents "super" ++ w.middle) ≠
      joinSegments (w.module above) := by
  obtain ⟨n, hn⟩ : ∃ n, w.ascents = n + 1 := ⟨w.ascents - 1, by omega⟩
  intro hsame
  have hlength := congrArg String.length hsame
  have hsplit : above = above.take (above.length - (n + 1)) ++
      above.drop (above.length - (n + 1)) := (List.take_append_drop _ _).symm
  rw [module, hn, List.cons_append, List.cons_append, List.cons_append, length_joinSegments,
    length_joinSegments] at hlength
  conv at hlength => lhs; rw [hsplit, List.replicate_succ]
  simp only [List.flatMap_append, List.flatMap_cons, List.length_append, List.length_cons]
    at hlength
  omega

end RelativePath

/-- The path from the outermost module that a relative path is taken for. After `self`, steps
upwards are taken for names. -/
theorem absolute_names {s : Scope} {above : List String} {w : RelativePath}
    (hmodule : segments s.module = "crate" :: above) (hup : w.ascents ≤ above.length) :
    s.absolute w.names =
      (if w.startsAtSelf then "crate" :: above ++ List.replicate w.ascents "super" ++ w.middle
        else w.module above) ++ [w.last] := by
  cases hself : w.startsAtSelf with
  | true =>
      have hnames : w.names =
          "self" :: (List.replicate w.ascents "super" ++ w.middle ++ [w.last]) := by
        simp [RelativePath.names, hself]
      rw [hnames, absolute, hmodule]
      simp
  | false =>
      obtain ⟨rest, -, hfirst⟩ := w.exists_names_eq_cons
      have hsuper : w.first = "super" := by simp [RelativePath.first, hself]
      have hnames : w.names = List.replicate w.ascents "super" ++ (w.middle ++ [w.last]) := by
        simp [RelativePath.names, hself]
      have hascend : s.absolute w.names = ascend (segments s.module) w.names := by
        rw [hfirst, hsuper]
        rfl
      have hordinary : (w.middle ++ [w.last]).head? ≠ some "super" := fun hhead =>
        (w.isOrdinary "super" (List.mem_of_mem_head? hhead)).not_super rfl
      rw [hascend, hnames, hmodule, ascend_replicate_append (by simpa using by omega),
        ascend_of_head?_ne hordinary, List.length_cons, Nat.succ_sub hup, List.take_succ_cons]
      simp [RelativePath.module]

/-- In a module below the outermost one, a relative path that goes up no further than there is is
classified as what it means, exactly if it does not both start at `self` and go up. -/
theorem classify_relative_iff {s : Scope} {above : List String} {w : RelativePath} {path : Path}
    {tokens : List Token} (hmodule : segments s.module = "crate" :: above)
    (hup : w.ascents ≤ above.length) (hfree : s.get? w.first = none)
    (hnames : path.names = w.names) (hplain : path.IsPlain) :
    IsAnchored above w (s.classify (.path path tokens)) ↔
      w.startsAtSelf = false ∨ w.ascents = 0 := by
  obtain ⟨rest, hrest, hfirst⟩ := w.exists_names_eq_cons
  have hrelative : w.first = "self" ∨ w.first = "super" := by
    unfold RelativePath.first
    split
    · exact .inl rfl
    · exact .inr rfl
  have hlong : 2 ≤ w.names.length := by
    have hpos := List.length_pos_iff.mpr hrest
    rw [hfirst, List.length_cons]
    omega
  have hkind : s.primitive? w.names = none := by
    rw [hfirst]
    exact primitive?_relative hrelative hfree hrest
  have hexpand : s.expand w.names = w.names := by
    rw [hfirst]
    exact expand_cons_of_unbound hfree rest
  rw [classify_path_eq_of_two_le hplain hnames hlong, hkind, hexpand,
    absolute_names hmodule hup]
  cases hself : w.startsAtSelf with
  | false =>
      refine iff_of_true ?_ (.inl rfl)
      dsimp only
      rw [if_neg (by simp), placed_concat (by simp [RelativePath.module])]
      exact isAnchored_named w
  | true =>
      dsimp only
      rw [if_pos rfl, placed_concat (by simp)]
      by_cases hstays : w.ascents = 0
      · refine iff_of_true ?_ (.inr hstays)
        have hplace : "crate" :: above ++ List.replicate w.ascents "super" ++ w.middle =
            w.module above := by
          rw [RelativePath.module_of_not_ascents hstays, hstays]
          simp
        rw [hplace]
        exact isAnchored_named w
      · refine iff_of_false (fun h => ?_) (by simp [hstays])
        have hnamed := congrArg TypePath.module (TypeRef.named.inj h.named)
        exact RelativePath.joinSegments_module_ne (Nat.pos_of_ne_zero hstays) above hnamed

/-- `super::super::money::Cents` -/
def centsAbove : RelativePath where
  startsAtSelf := false
  ascents := 2
  middle := ["money"]
  last := "Cents"
  isRelative := by decide
  isOrdinary := by decide

/-- The same as it is parsed. -/
def centsAbovePath : Path :=
  .ofNames [⟨"super", false, by decide⟩, ⟨"super", false, by decide⟩, ⟨"money", false, by decide⟩,
    ⟨"Cents", false, by decide⟩]

theorem classify_relative_iff_cents :
    segments "crate::shop::orders" = ["crate", "shop", "orders"] ∧
      Scope.get? ⟨"crate::shop::orders", []⟩ centsAbove.first = none ∧
      centsAbovePath.names = centsAbove.names ∧
      IsAnchored ["shop", "orders"] centsAbove
        (Scope.classify ⟨"crate::shop::orders", []⟩ (.path centsAbovePath [])) ∧
      Scope.classify ⟨"crate::shop::orders", []⟩ (.path centsAbovePath []) =
        .named ⟨"crate::money", "Cents"⟩ := by
  have hmodule : segments "crate::shop::orders" = ["crate", "shop", "orders"] := by
    decide +kernel
  have hanchored : IsAnchored ["shop", "orders"] centsAbove
      (Scope.classify ⟨"crate::shop::orders", []⟩ (.path centsAbovePath [])) :=
    (classify_relative_iff hmodule (by decide) rfl rfl (Path.isPlain_ofNames _)).mpr (.inl rfl)
  exact ⟨hmodule, rfl, rfl, hanchored, by decide +kernel⟩

/-- `self::super::Cents` -/
def centsBeside : RelativePath where
  startsAtSelf := true
  ascents := 1
  middle := []
  last := "Cents"
  isRelative := by decide
  isOrdinary := by decide

/-- The same as it is parsed. -/
def centsBesidePath : Path :=
  .ofNames [⟨"self", false, by decide⟩, ⟨"super", false, by decide⟩, ⟨"Cents", false, by decide⟩]

/-- After `self`, a step upwards is taken for the name of a module. -/
theorem super_kept_after_self :
    centsBesidePath.names = centsBeside.names ∧
      Scope.classify ⟨"crate::shop", []⟩ (.path centsBesidePath []) =
        .named ⟨"crate::shop::super", "Cents"⟩ ∧
      ¬ IsAnchored ["shop"] centsBeside
        (Scope.classify ⟨"crate::shop", []⟩ (.path centsBesidePath [])) ∧
      Collect.source "crate::shop" "type Price = self::super::Cents;" .empty =
        .ok (.insert {}
          ⟨⟨"crate::shop", "Price"⟩, .synonym (.named ⟨"crate::shop::super", "Cents"⟩)⟩) := by
  have hnamed : Scope.classify ⟨"crate::shop", []⟩ (.path centsBesidePath []) =
      .named ⟨"crate::shop::super", "Cents"⟩ := by
    decide +kernel
  refine ⟨rfl, hnamed, fun h => ?_, by decide +kernel⟩
  have hmodule := congrArg TypePath.module (TypeRef.named.inj (hnamed.symm.trans h.named))
  exact absurd hmodule (by decide +kernel)

end Scope

end Rowsmith

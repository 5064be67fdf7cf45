/-
# References in settings

A text is read from left to right as pieces: references to variables, each from its
start to the next closing brace, and characters that stand for themselves. `Reads` says
what the pieces of a text are, without the environment, and every text has one reading.
`expand_exact` says that expansion puts for each piece what it stands for, fails at the
first piece that stands for nothing, and takes as many rounds as there are pieces. Pieces
of two texts are the pieces of both together, as long as no reference starts at the seam.
-/

import Rowsmith.Proofs.Text.Segments
import Rowsmith.Proofs.Traversal
import Rowsmith.Settings.Expansion

namespace Rowsmith.Settings

/-- A piece of a text. -/
inductive Piece where
  | plain (c : Char)
  | reference (name : String)
  /-- A reference that no brace closes. -/
  | unclosed (name : String)
  deriving DecidableEq, Repr

/-- The text is the pieces in order. A reference goes on to the next closing brace, and to
the end of the text if there is none. -/
inductive Reads : List Char → List Piece → Prop where
  | nil : Reads [] []
  | plain {c : Char} {cs : List Char} {ps : List Piece} (hstart : ¬ ['$', '{'] <+: c :: cs)
      (hrest : Reads cs ps) : Reads (c :: cs) (.plain c :: ps)
  | reference {name cs : List Char} {ps : List Piece} (hname : '}' ∉ name)
      (hrest : Reads cs ps) :
      Reads ('$' :: '{' :: (name ++ '}' :: cs)) (.reference (String.ofList name) :: ps)
  | unclosed {name : List Char} (hname : '}' ∉ name) :
      Reads ('$' :: '{' :: name) [.unclosed (String.ofList name)]

/-- What a piece stands for: a character for itself, and a reference for the value of the
variable that it names. -/
inductive Piece.StandsFor (env : Environment) : Piece → String → Prop where
  | plain (c : Char) : StandsFor env (.plain c) (String.singleton c)
  | reference {name value : String} (hname : name ≠ "") (hset : env.lookup name = some value) :
      StandsFor env (.reference name) value

/-- Why a piece stands for nothing. -/
inductive Piece.FailsWith (env : Environment) : Piece → ExpansionError → Prop where
  | unclosed (name : String) : FailsWith env (.unclosed name) (.unterminated name)
  | unnamed : FailsWith env (.reference "") .noName
  | unset {name : String} (hname : name ≠ "") (hset : env.lookup name = none) :
      FailsWith env (.reference name) (.unset name)

/-- The text that is put for a piece. -/
def Piece.value (env : Environment) : Piece → Except ExpansionError String
  | plain c => .ok (String.singleton c)
  | reference name =>
    if name = "" then .error .noName
    else
      match env.lookup name with
      | some value => .ok value
      | none => .error (.unset name)
  | unclosed name => .error (.unterminated name)

variable {env : Environment} {cs ds name : List Char} {ps qs : List Piece} {p : Piece}
  {c : Char} {s t : String} {e : ExpansionError}

/-! ## Values of pieces -/

theorem Piece.value_eq_ok_iff : p.value env = .ok s ↔ p.StandsFor env s := by
  constructor
  · intro h
    cases p with
    | plain c =>
        cases h
        exact .plain c
    | reference name =>
        obtain ⟨hname, h⟩ := ite_error_eq_ok_iff.mp h
        cases hset : env.lookup name with
        | none => simp [hset] at h
        | some value =>
            rw [hset] at h
            cases h
            exact .reference hname hset
    | unclosed name => cases h
  · intro h
    cases h with
    | plain c => rfl
    | reference hname hset => rw [value, if_neg hname, hset]

theorem Piece.value_eq_error_iff : p.value env = .error e ↔ p.FailsWith env e := by
  constructor
  · intro h
    cases p with
    | plain c => cases h
    | reference name =>
        rcases ite_error_eq_error_iff.mp h with ⟨rfl, rfl⟩ | ⟨hname, h⟩
        · exact .unnamed
        · cases hset : env.lookup name with
          | some value => simp [hset] at h
          | none =>
              rw [hset] at h
              cases h
              exact .unset hname hset
    | unclosed name =>
        cases h
        exact .unclosed name
  · intro h
    cases h with
    | unclosed name => rfl
    | unnamed => rfl
    | unset hname hset => rw [value, if_neg hname, hset]

/-! ## Readings -/

theorem exists_reads (cs : List Char) : ∃ ps, Reads cs ps := by
  induction hn : cs.length using Nat.strongRecOn generalizing cs with
  | ind n ih =>
      cases cs with
      | nil => exact ⟨[], .nil⟩
      | cons c cs =>
          by_cases hstart : ['$', '{'] <+: c :: cs
          · obtain ⟨rest, hrest⟩ := hstart
            rw [← hrest] at hn ⊢
            by_cases hclosed : '}' ∈ rest
            · obtain ⟨name, after, rfl, hname⟩ := List.eq_append_cons_of_mem hclosed
              obtain ⟨ps, hps⟩ := ih after.length (by simp at hn; omega) after rfl
              exact ⟨_, .reference hname hps⟩
            · exact ⟨_, .unclosed hclosed⟩
          · obtain ⟨ps, hps⟩ := ih cs.length (by simp at hn; omega) cs rfl
            exact ⟨_, .plain hstart hps⟩

/-- At the start of a reference the text is read as one that is closed or as one that is not. -/
theorem Reads.start_cases {rest : List Char} (h : Reads ('$' :: '{' :: rest) ps) :
    (∃ name after qs, rest = name ++ '}' :: after ∧ '}' ∉ name ∧ Reads after qs ∧
        ps = .reference (String.ofList name) :: qs) ∨
      '}' ∉ rest ∧ ps = [.unclosed (String.ofList rest)] := by
  generalize hcs : '$' :: '{' :: rest = cs at h
  cases h with
  | nil => cases hcs
  | plain hstart _ =>
      rw [← hcs] at hstart
      exact absurd (List.prefix_append _ _) hstart
  | @reference name after qs hname hrest =>
      cases hcs
      exact .inl ⟨name, after, qs, rfl, hname, hrest, rfl⟩
  | unclosed hname =>
      cases hcs
      exact .inr ⟨hname, rfl⟩

theorem Reads.unique (h : Reads cs ps) (h' : Reads cs qs) : ps = qs := by
  induction h generalizing qs with
  | nil =>
      cases h'
      rfl
  | plain hstart hrest ih =>
      cases h' with
      | plain _ hrest' => rw [ih hrest']
      | reference => exact absurd (List.prefix_append _ _) hstart
      | unclosed => exact absurd (List.prefix_append _ _) hstart
  | reference hname hrest ih =>
      rcases h'.start_cases with ⟨name', after, qs', hcs, hname', hrest', rfl⟩ | ⟨hopen, -⟩
      · obtain ⟨rfl, rfl⟩ := Text.append_stop_inj hname hname' hcs
        rw [ih hrest']
      · simp at hopen
  | unclosed hname =>
      rcases h'.start_cases with ⟨name', after, qs', rfl, -, -, -⟩ | ⟨-, rfl⟩
      · simp at hname
      · rfl

/-- Every piece takes a character or more. -/
theorem Reads.length_le (h : Reads cs ps) : ps.length ≤ cs.length := by
  induction h with
  | nil => exact Nat.le_refl 0
  | plain _ _ ih => exact Nat.succ_le_succ ih
  | reference _ _ ih =>
      simp only [List.length_cons, List.length_append]
      omega
  | unclosed => simp

/-- Two texts are read one after the other if all references of the first one are closed
and none starts at its end. -/
theorem Reads.append (h : Reads cs ps) (h' : Reads ds qs)
    (hclosed : ∀ name, Piece.unclosed name ∉ ps) (hlast : cs.getLast? ≠ some '$') :
    Reads (cs ++ ds) (ps ++ qs) := by
  induction h with
  | nil => exact h'
  | @plain c cs ps hstart hrest ih =>
      have hseam : ¬ ['$', '{'] <+: c :: (cs ++ ds) := by
        cases cs with
        | nil =>
            have hc : c ≠ '$' := by simpa using hlast
            simp [hc.symm]
        | cons d cs => simpa using hstart
      have hlast' : cs.getLast? ≠ some '$' := by
        intro htail
        rw [List.getLast?_cons, htail] at hlast
        exact hlast rfl
      exact .plain hseam (ih (fun name hmem => hclosed name (List.mem_cons_of_mem _ hmem)) hlast')
  | @reference name cs ps hname hrest ih =>
      have hlast' : cs.getLast? ≠ some '$' := by
        intro htail
        simp [List.getLast?_cons, List.getLast?_append, htail] at hlast
      have hboth := Reads.reference hname
        (ih (fun name hmem => hclosed name (List.mem_cons_of_mem _ hmem)) hlast')
      simpa using hboth
  | unclosed => exact absurd List.mem_cons_self (hclosed _)

/-! ## Rounds of expansion -/

/-- Up to a closing brace, characters are added to the name. -/
theorem expandChars_name (hname : '}' ∉ name) (read : List Char) :
    expandChars env (some read) (name ++ cs) =
      expandChars env (some (name.reverse ++ read)) cs := by
  induction name generalizing read with
  | nil => rfl
  | cons c name ih =>
      rw [List.mem_cons, not_or] at hname
      rw [List.cons_append, expandChars, ih hname.2, List.reverse_cons, List.append_assoc,
        List.singleton_append]
      exact fun h => hname.1 h.symm

theorem expandChars_plain (hstart : ¬ ['$', '{'] <+: c :: cs) :
    expandChars env none (c :: cs) =
      (Piece.plain c).value env >>= fun s => (expandChars env none cs).map (s.toList ++ ·) := by
  rw [expandChars]
  · simp [Piece.value, bind, Except.bind]
  · rintro rest rfl rfl
    exact hstart (List.prefix_append _ _)

theorem expandChars_reference (hname : '}' ∉ name) :
    expandChars env none ('$' :: '{' :: (name ++ '}' :: cs)) =
      (Piece.reference (String.ofList name)).value env >>= fun s =>
        (expandChars env none cs).map (s.toList ++ ·) := by
  have hempty : name.reverse.isEmpty = true ↔ String.ofList name = "" := by
    simp
  rw [expandChars, expandChars_name hname, expandChars, List.append_nil, List.reverse_reverse,
    Piece.value]
  by_cases hnone : String.ofList name = ""
  · rw [if_pos (hempty.mpr hnone), if_pos hnone]
    rfl
  · rw [if_neg (mt hempty.mp hnone), if_neg hnone]
    dsimp only
    cases env.lookup (String.ofList name) <;> rfl

theorem expandChars_unclosed (hname : '}' ∉ name) :
    expandChars env none ('$' :: '{' :: name) =
      .error (.unterminated (String.ofList name)) := by
  have hread : expandChars env (some []) (name ++ []) =
      expandChars env (some (name.reverse ++ [])) [] := expandChars_name hname []
  rw [List.append_nil, List.append_nil] at hread
  rw [expandChars, hread, expandChars, List.reverse_reverse]

/-- Expansion goes from piece to piece and stops at the first one that has no value. -/
theorem expandChars_eq (h : Reads cs ps) :
    expandChars env none cs = (ps.mapM (Piece.value env)).map (List.flatMap String.toList) := by
  have hcons : ∀ p ps, ((p :: ps).mapM (Piece.value env)).map (List.flatMap String.toList) =
      p.value env >>= fun s =>
        ((ps.mapM (Piece.value env)).map (List.flatMap String.toList)).map (s.toList ++ ·) := by
    intro p ps
    rw [List.mapM_cons]
    cases p.value env with
    | error e => rfl
    | ok s => cases ps.mapM (Piece.value env) <;> rfl
  induction h with
  | nil => rfl
  | plain hstart _ ih => rw [expandChars_plain hstart, hcons, ih]
  | reference hname _ ih => rw [expandChars_reference hname, hcons, ih]
  | unclosed hname =>
      rw [expandChars_unclosed hname]
      rfl

theorem expand_eq_ok_iff (h : Reads s.toList ps) :
    expand env s = .ok t ↔
      ∃ values, List.Forall₂ (Piece.StandsFor env) ps values ∧ t = String.join values := by
  rw [expand, expandChars_eq h, map_eq_ok_iff]
  simp only [map_eq_ok_iff, mapM_eq_ok_iff, Piece.value_eq_ok_iff]
  constructor
  · rintro ⟨-, ⟨values, hvalues, rfl⟩, rfl⟩
    exact ⟨values, hvalues, by rw [← String.toList_inj]; simp⟩
  · rintro ⟨values, hvalues, rfl⟩
    exact ⟨_, ⟨values, hvalues, rfl⟩, by rw [← String.toList_inj]; simp⟩

/-- The first piece that stands for nothing decides about the error. -/
theorem expand_eq_error_iff (h : Reads s.toList ps) :
    expand env s = .error e ↔ ∃ (i : Nat) (p : Piece), ps[i]? = some p ∧ p.FailsWith env e ∧
      ∀ (j : Nat) (q : Piece), j < i → ps[j]? = some q → ∃ value, q.StandsFor env value := by
  rw [expand, expandChars_eq h, map_eq_error_iff, map_eq_error_iff, mapM_eq_error_iff]
  simp only [Piece.value_eq_ok_iff, Piece.value_eq_error_iff]

/-- A text whose pieces all stand for something has no reference without an end. -/
theorem unclosed_not_mem {values : List String}
    (h : List.Forall₂ (Piece.StandsFor env) ps values) (name : String) :
    Piece.unclosed name ∉ ps := by
  intro hmem
  obtain ⟨value, -, hvalue⟩ := exists_of_mem_of_forall₂ h.flip hmem
  cases hvalue

/-- Texts are expanded one after the other unless a reference may start at the seam. -/
theorem expand_append {first second first' second' : String}
    (h : expand env first = .ok first') (h' : expand env second = .ok second')
    (hlast : first.toList.getLast? ≠ some '$') :
    expand env (first ++ second) = .ok (first' ++ second') := by
  obtain ⟨ps, hps⟩ := exists_reads first.toList
  obtain ⟨qs, hqs⟩ := exists_reads second.toList
  obtain ⟨values, hvalues, rfl⟩ := (expand_eq_ok_iff hps).mp h
  obtain ⟨values', hvalues', rfl⟩ := (expand_eq_ok_iff hqs).mp h'
  have hboth := hps.append hqs (unclosed_not_mem hvalues) hlast
  rw [← String.toList_append] at hboth
  refine (expand_eq_ok_iff hboth).mpr ⟨values ++ values', List.rel_append hvalues hvalues', ?_⟩
  rw [String.join_append]

/-- Expansion reads the pieces of a text once from left to right. It succeeds exactly if
each stands for something, with these texts in order and as they are. Else the error is
that of the first piece that stands for nothing. There are no more pieces than
characters. Two texts may be expanded one by one, unless the first ends with the sign
that a reference starts with. -/
theorem expand_exact (env : Environment) (s : String) :
    (∃ ps, Reads s.toList ps ∧ (∀ qs, Reads s.toList qs → qs = ps) ∧ ps.length ≤ s.length ∧
      (∀ s', expand env s = .ok s' ↔
        ∃ values, List.Forall₂ (Piece.StandsFor env) ps values ∧ s' = String.join values) ∧
      ∀ e, expand env s = .error e ↔
        ∃ (i : Nat) (p : Piece), ps[i]? = some p ∧ p.FailsWith env e ∧
          ∀ (j : Nat) (q : Piece), j < i → ps[j]? = some q → ∃ value, q.StandsFor env value) ∧
    ∀ s' t t', expand env s = .ok s' → expand env t = .ok t' → s.toList.getLast? ≠ some '$' →
      expand env (s ++ t) = .ok (s' ++ t') := by
  obtain ⟨ps, hps⟩ := exists_reads s.toList
  refine ⟨⟨ps, hps, fun qs hqs => hqs.unique hps, ?_, fun s' => expand_eq_ok_iff hps,
    fun e => expand_eq_error_iff hps⟩, fun s' t t' h h' hlast => expand_append h h' hlast⟩
  rw [← String.length_toList]
  exact hps.length_le

/-- A value that looks like a reference stays as it is. -/
theorem expand_exact_nested :
    expand [("A", "$\x7bB\x7d"), ("B", "x")] "$$\x7bA\x7d" = .ok "$$\x7bB\x7d" ∧
      expand [("A", "$\x7bB\x7d"), ("B", "x")] "\x7bB\x7d$\x7bB\x7d$" = .ok "\x7bB\x7dx$" ∧
      "$$\x7bA\x7d".toList.getLast? ≠ some '$' ∧
      expand [("A", "$\x7bB\x7d"), ("B", "x")] "$$\x7bA\x7d\x7bB\x7d$\x7bB\x7d$" =
        .ok "$$\x7bB\x7d\x7bB\x7dx$" := by
  have hfirst : expand [("A", "$\x7bB\x7d"), ("B", "x")] "$$\x7bA\x7d" =
      .ok "$$\x7bB\x7d" := by
    decide +kernel
  have hsecond : expand [("A", "$\x7bB\x7d"), ("B", "x")] "\x7bB\x7d$\x7bB\x7d$" =
      .ok "\x7bB\x7dx$" := by
    decide +kernel
  have hlast : "$$\x7bA\x7d".toList.getLast? ≠ some '$' := by decide
  exact ⟨hfirst, hsecond, hlast, (expand_exact _ _).2 _ _ _ hfirst hsecond hlast⟩

end Rowsmith.Settings

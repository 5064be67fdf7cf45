/-
# Options with their values in one argument

An option takes its value from the next argument, or from behind an equals sign in its
own. Reading takes the name and the equals sign off the front of such an argument as
often as they stand there, and so off the front of the value as well.
`joined_agrees_iff` says which value is read, and that the two ways of writing an option
mean the same for a value exactly if it does not start with the name and an equals sign.
-/

import Rowsmith.Proofs.Command.Groups
import Rowsmith.Proofs.Text.Blank

namespace Rowsmith

/-- No text with an equals sign names a dialect. -/
theorem Dialect.equals_not_mem_of_ofText {text : String} {d : Dialect}
    (h : Dialect.ofText text = .ok d) : '=' ∉ text.toList := by
  intro hmem
  have hkept : '=' ∈ Text.trim text.toList := by
    obtain ⟨lead, trail, hlead, htrail, heq, -⟩ := Text.exists_trim text.toList
    have hgap : ∀ gap, Text.IsGap gap → '=' ∉ gap := fun gap hgap hc => by
      cases hgap '=' hc
    rw [heq] at hmem
    simpa [hgap lead hlead, hgap trail htrail] using hmem
  have hname : '=' ∈ ((Text.trimmed text).map Char.toLower).toList := by
    rw [Text.trimmed, String.toList_map, String.toList_ofList]
    exact List.mem_map.mpr ⟨'=', hkept, rfl⟩
  unfold Dialect.ofText at h
  split at h
  next hmysql => simp [hmysql] at hname
  next hpostgres => simp [hpostgres] at hname
  next hpostgres => simp [hpostgres] at hname
  next hpostgres => simp [hpostgres] at hname
  next => cases h

namespace Command

open Arguments ValueOption

/-! ## Starts of an argument -/

section

variable {start cs : List Char}

theorem dropStarts_of_not_isPrefix (h : ¬ start <+: cs) (n : Nat) : dropStarts start n cs = cs := by
  cases n with
  | zero => rfl
  | succ n => rw [dropStarts, if_neg (by rwa [List.isPrefixOf_iff_prefix])]

theorem dropStarts_append (n : Nat) :
    dropStarts start (n + 1) (start ++ cs) = dropStarts start n cs := by
  rw [dropStarts, if_pos (by simp [List.isPrefixOf_iff_prefix]), List.drop_left]

/-- With enough steps no start is left, and only starts are gone. -/
theorem exists_starts (hstart : start ≠ []) {n : Nat} (hn : cs.length ≤ n) :
    ∃ k, cs = (List.replicate k start).flatten ++ dropStarts start n cs ∧
      ¬ start <+: dropStarts start n cs := by
  induction n generalizing cs with
  | zero =>
      have hnil : cs = [] := List.eq_nil_of_length_eq_zero (Nat.le_zero.mp hn)
      subst hnil
      exact ⟨0, rfl, by simpa [dropStarts] using hstart⟩
  | succ n ih =>
      by_cases hprefix : start <+: cs
      · obtain ⟨rest, rfl⟩ := hprefix
        have hshorter : rest.length ≤ n := by
          have hpos := List.length_pos_iff.mpr hstart
          rw [List.length_append] at hn
          omega
        obtain ⟨k, hrest, hleft⟩ := ih hshorter
        rw [dropStarts_append]
        refine ⟨k + 1, ?_, hleft⟩
        rw [List.replicate_succ, List.flatten_cons, List.append_assoc, ← hrest]
      · rw [dropStarts_of_not_isPrefix hprefix]
        exact ⟨0, rfl, hprefix⟩

end

/-! ## Joined values -/

variable {a : Arguments} {o : ValueOption} {text bare : String} {before after : List String}

/-- What stands before a value in the same argument. -/
def ValueOption.start (o : ValueOption) : String :=
  o.name ++ "="

theorem named?_option (o : ValueOption) : named? o.name = some o := by
  cases o <;> decide

/-- An argument starts with one option at most. -/
theorem isPrefixOf_start {o' : ValueOption} (hne : o' ≠ o) (cs : List Char) :
    o'.start.toList.isPrefixOf (o.start.toList ++ cs) = false := by
  cases o <;> cases o' <;> first | exact absurd rfl hne | rfl

theorem joined?_start (o : ValueOption) (text : String) :
    ∃ n, text.toList.length ≤ n ∧ joined? (o.start ++ text) =
      some (o, String.ofList (dropStarts o.start.toList n text.toList)) := by
  obtain ⟨n, hn⟩ : ∃ n, (o.start.toList ++ text.toList).length = n + 1 := by
    cases o <;> exact ⟨_, rfl⟩
  have hlong : text.toList.length ≤ n := by
    have hpos : 0 < o.start.toList.length := by cases o <;> decide
    rw [List.length_append] at hn
    omega
  have hself : o.start.toList.isPrefixOf (o.start.toList ++ text.toList) = true := by
    simp [List.isPrefixOf_iff_prefix]
  let value := String.ofList (dropStarts o.start.toList n text.toList)
  have hread : ∀ o' : ValueOption,
      (if o'.start.toList.isPrefixOf (o.start.toList ++ text.toList) then
        some (o', String.ofList (dropStarts o'.start.toList (n + 1)
          (o.start.toList ++ text.toList)))
      else none) = if o' = o then some (o, value) else none := by
    intro o'
    by_cases hsame : o' = o
    · subst hsame
      rw [if_pos hself, if_pos rfl, dropStarts_append]
    · rw [isPrefixOf_start hsame, if_neg hsame]
      rfl
  refine ⟨n, hlong, ?_⟩
  rw [joined?, String.toList_append, hn]
  refine (congrArg (all.findSome? ·) (funext hread)).trans ?_
  cases o <;> rfl

/-- The option with the text behind an equals sign is read as the option with what is left of the
text without the starts. -/
theorem exists_joined? (o : ValueOption) (text : String) :
    ∃ k bare, text = String.join (List.replicate k o.start) ++ bare ∧
      ¬ o.start.toList <+: bare.toList ∧ joined? (o.start ++ text) = some (o, bare) := by
  obtain ⟨n, hn, hread⟩ := joined?_start o text
  have hstart : o.start.toList ≠ [] := by cases o <;> decide
  obtain ⟨k, htext, hbare⟩ := exists_starts hstart hn
  refine ⟨k, _, ?_, by rwa [String.toList_ofList], hread⟩
  rw [← String.toList_inj]
  simpa [List.flatMap_def] using htext

/-! ## Both ways of writing -/

/-- Arguments that are read alike after any others are read alike after complete ones. -/
theorem parse_append_congr {β : Type} (result : Except ArgumentError Request → β)
    {first second : List String} (h : Complete before)
    (hrest : ∀ a, result (parseAfter a first) = result (parseAfter a second)) :
    result (parse (before ++ first)) = result (parse (before ++ second)) := by
  rw [parse, parse, parseAfter_append h, parseAfter_append h]
  cases parseAfter {} before with
  | error e => rfl
  | ok request =>
      cases request with
      | help => rfl
      | generate a => exact hrest a

/-- A dialect that is not one is refused, whatever follows. -/
theorem toOption_set_dialect (h : ∀ d, Dialect.ofText text ≠ .ok d)
    (rest : Arguments → Except ArgumentError Request) :
    (dialect.set a text >>= rest).toOption = none := by
  cases hset : dialect.set a text with
  | error e => rfl
  | ok b =>
      obtain ⟨d, hof, -⟩ := set_dialect_eq_ok_iff.mp hset
      exact absurd hof (h d)

/-- An option and its value in one argument are read as the option and what is left of
the value, in two arguments. -/
theorem parse_joined {token : String} (hread : joined? token = some (o, bare))
    (h : Complete before) :
    parse (before ++ token :: after) = parse (before ++ o.name :: bare :: after) := by
  refine parse_append_congr id h fun a => ?_
  rw [parseAfter_joined hread, parseAfter_spaced (named?_option o)]

theorem isPrefix_of_starts {k : Nat} (hk : k ≠ 0)
    (htext : text = String.join (List.replicate k o.start) ++ bare) :
    o.start.toList <+: text.toList := by
  obtain ⟨k, rfl⟩ := Nat.exists_eq_add_one_of_ne_zero hk
  rw [htext, List.replicate_succ]
  simp

/-- What starts like an option with its value names no dialect. -/
theorem ofText_ne_ok_of_isPrefix (h : o.start.toList <+: text.toList) (d : Dialect) :
    Dialect.ofText text ≠ .ok d := by
  intro hof
  have hequals : '=' ∈ o.start.toList := by cases o <;> decide
  exact Dialect.equals_not_mem_of_ofText hof (h.subset hequals)

/-- Of two values that mean the same at the end of the arguments, one starts with the
option only if both are refused as dialects. -/
theorem refused_of_alike (hstart : o.start.toList <+: text.toList)
    (hbare : ¬ o.start.toList <+: bare.toList)
    (halike : (parse [o.name, bare]).toOption = (parse [o.name, text]).toOption) :
    o = .dialect ∧ ∀ d, Dialect.ofText bare ≠ .ok d := by
  rw [parse, parse, parseAfter_spaced (named?_option o), parseAfter_spaced (named?_option o)]
    at halike
  cases o with
  | dialect =>
      refine ⟨rfl, fun d hd => ?_⟩
      rw [toOption_set_dialect (ofText_ne_ok_of_isPrefix hstart), ValueOption.set, hd] at halike
      cases halike
  | config | source | output =>
      have hsame : bare = text := by
        simpa [ValueOption.set, bind, Except.bind, parseAfter, Except.toOption] using halike
      exact absurd (hsame ▸ hstart) hbare

/-- A value behind an equals sign is read without the starts at its front. The two ways
of writing mean the same, or are both refused, whatever stands around them, exactly if
the value has none there, or is refused as a dialect without them as well. -/
theorem joined_agrees_iff (o : ValueOption) (text : String) :
    ∃ k bare, text = String.join (List.replicate k o.start) ++ bare ∧
      ¬ o.start.toList <+: bare.toList ∧
      (∀ before after, Complete before →
        parse (before ++ (o.start ++ text) :: after) =
          parse (before ++ o.name :: bare :: after)) ∧
      ((∀ before after, Complete before →
          (parse (before ++ (o.start ++ text) :: after)).toOption =
            (parse (before ++ o.name :: text :: after)).toOption) ↔
        k = 0 ∨ o = .dialect ∧ ∀ d, Dialect.ofText bare ≠ .ok d) := by
  obtain ⟨k, bare, htext, hbare, hread⟩ := exists_joined? o text
  refine ⟨k, bare, htext, hbare, fun before after h => parse_joined hread h, ?_⟩
  constructor
  · intro halike
    refine or_iff_not_imp_left.mpr fun hk => ?_
    have hone := halike [] [] .nil
    rw [parse_joined hread .nil] at hone
    exact refused_of_alike (isPrefix_of_starts hk htext) hbare hone
  · rintro hcases before after h
    rw [parse_joined hread h]
    by_cases hk : k = 0
    · have hsame : text = bare := by simpa [hk] using htext
      rw [hsame]
    · obtain ⟨rfl, hrefused⟩ := hcases.resolve_left hk
      refine parse_append_congr Except.toOption h fun a => ?_
      rw [parseAfter_spaced (named?_option _), parseAfter_spaced (named?_option _),
        toOption_set_dialect hrefused,
        toOption_set_dialect (ofText_ne_ok_of_isPrefix (isPrefix_of_starts hk htext))]

/-- A value with equals signs, and with the start of its option further behind, means the
same in one argument and in two. -/
theorem joined_agrees_source :
    Complete ["--check", "-o", "--src=gen"] ∧
      (parse ["--check", "-o", "--src=gen", "--src=a=--src=b", "--context"]).toOption =
        (parse ["--check", "-o", "--src=gen", "--src", "a=--src=b", "--context"]).toOption := by
  have hbefore : Complete ["--check", "-o", "--src=gen"] :=
    .single (by decide) (.spaced (o := .output) (by decide) .nil)
  obtain ⟨k, bare, htext, -, -, hagrees⟩ := joined_agrees_iff .source "a=--src=b"
  have hk : k = 0 := by
    cases k with
    | zero => rfl
    | succ k =>
        have hfirst := congrArg (fun s => s.toList.head?) htext
        simp [List.replicate_succ, ValueOption.start, ValueOption.name] at hfirst
  exact ⟨hbefore, hagrees.mpr (.inl hk) _ _ hbefore⟩

/-- The start of an option is taken for no part of a value behind an equals sign, and for
the value itself in an argument of its own. -/
theorem joined_loses_start :
    parse ["--src=--src=model"] = .ok (.generate { source := some "model" }) ∧
      parse ["--src", "--src=model"] = .ok (.generate { source := some "--src=model" }) ∧
      parse ["--dialect=--dialect=pg"] = .ok (.generate { dialect := some .postgres }) ∧
      parse ["--dialect", "--dialect=pg"] =
        .error (.dialect ⟨"--dialect=pg"⟩) := by
  refine ⟨?_, ?_, ?_, ?_⟩ <;> decide +kernel

end Command
end Rowsmith

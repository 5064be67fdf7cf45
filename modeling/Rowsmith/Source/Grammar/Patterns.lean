/-
# Patterns

The phrases that take a value apart. A pattern answers whether it is a range that lacks a bound,
since such a range needs parentheses inside brackets.
-/

import Rowsmith.Source.Grammar.Types

namespace Rowsmith.Source.Grammar

open Reader Token

/-- Whether another alternative follows a pattern. -/
def startsWithAlternative (ts : List Token) : Bool :=
  startsWith "|" ts && !startsWith "||" ts && !startsWith "|=" ts

/-- Reads a pattern with alternatives. -/
def alternatives (g : Grammar) : Reader Bool := do
  let leading ← punct? "|"
  let openRange ← g.pattern
  let more ← many startsWithAlternative do
    punct "|"
    g.pattern
  return openRange && !leading && more.isEmpty

/-- Whether the bound of a range is left out here. -/
def endsRange (ts : List Token) : Bool :=
  ts.isEmpty || startsWith "|" ts || startsWith "=" ts || startsWith ":" ts && !startsWith "::" ts ||
    startsWith "," ts || startsWith ";" ts || startsWithWord "if" ts

/-- Reads the bound of a range, unless it is left out. -/
def rangeBound (g : Grammar) : Reader Bool := do
  if ← ahead endsRange then return false
  if ← ahead startsWithLiteral then literal
  else if ← ahead fun ts => startsWithName ts || startsWith "::" ts || startsWith "<" ts ||
      startsWithOneOf ["self", "Self", "super", "crate"] ts then
    let _ ← g.typedPath true
  else
    word "const"
    g.attributedBlock
  return true

/-- Reads the dots of a range and its upper bound, which only two dots can do without. Answers
whether the bound is left out. -/
def rangeEnd (g : Grammar) : Reader Bool := do
  let closed ← ahead fun ts => startsWith "..=" ts || startsWith "..." ts
  punct ".."
  if closed then skip 1
  let bounded ← g.rangeBound
  if closed && !bounded then refuse
  return !bounded

/-- Reads the fields of a struct pattern, at most `steps` of them. -/
def patternFields (g : Grammar) : (steps : Nat) → Reader Unit
  | 0 => refuse
  | steps + 1 => do
    unless ← ahead List.isEmpty do
      let _ ← g.outerAttributes
      if ← punct? ".." then return
      let boxed ← word? "box"
      let byRef ← word? "ref"
      let mutable ← word? "mut"
      let marked := boxed || byRef || mutable
      let named ← ahead startsWithName
      if named then skip 1
      else
        if marked then refuse
        index
      if !named || !marked && (← ahead (startsWith ":")) then
        punct ":"
        let _ ← g.alternatives
      unless ← ahead List.isEmpty do
        punct ","
        g.patternFields steps

/-- Reads a pattern that starts with a path. -/
def pathPattern (g : Grammar) : Reader Bool := do
  let p ← g.typedPath true
  if (p.map isPlain).getD false && (← ahead startsWithBang) then
    punct "!"
    let _ ← anyGroup
    return false
  if ← ahead (startsWithGroup .brace) then
    inside .brace do g.patternFields ((← rest).length + 1)
    return false
  if ← ahead (startsWithGroup .paren) then
    let _ ← inside .paren (listed g.alternatives)
    return false
  if ← ahead (startsWith "..") then g.rangeEnd else return false

/-- Reads a pattern that binds a name. -/
def bindingPattern (g : Grammar) : Reader Unit := do
  let _ ← word? "ref"
  let _ ← word? "mut"
  if ← ahead (startsWithWord "self") then skip 1
  else let _ ← name
  if ← punct? "@" then
    let _ ← g.pattern

/-- Whether a pattern that starts with a path comes next. -/
def startsWithPathPattern (ts : List Token) : Bool :=
  let second := ts.drop 1
  startsWithName ts && (startsWith "::" second || startsWith "!" second ||
      startsWithGroup .brace second || startsWithGroup .paren second || startsWith ".." second) ||
    startsWithWord "self" ts && startsWith "::" second ||
    startsWith "::" ts || startsWith "<" ts || startsWithOneOf ["Self", "super", "crate"] ts

/-- Reads a pattern without alternatives. Answers whether it is a range that lacks a bound. -/
def onePattern (g : Grammar) : Reader Bool := do
  if ← ahead startsWithPathPattern then g.pathPattern
  else if ← word? "_" then return false
  else if ← word? "box" then
    let _ ← g.pattern
    return false
  else if ← ahead fun ts => startsWith "-" ts || startsWithLiteral ts || startsWithWord "const" ts then
    unless ← g.rangeBound do refuse
    if ← ahead (startsWith "..") then g.rangeEnd else return false
  else if ← ahead fun ts => startsWithOneOf ["ref", "mut", "self"] ts || startsWithName ts then
    g.bindingPattern
    return false
  else if ← punct? "&" then
    let _ ← word? "mut"
    let _ ← g.pattern
    return false
  else if ← ahead (startsWithGroup .paren) then
    let _ ← inside .paren (listed g.alternatives)
    return false
  else if ← ahead (startsWithGroup .bracket) then
    let _ ← inside .bracket (listed do if ← g.alternatives then refuse)
    return false
  else
    require fun ts => !startsWith "..." ts
    let closed ← ahead (startsWith "..=")
    punct ".."
    if closed then skip 1
    let bounded ← g.rangeBound
    if closed && !bounded then refuse
    return bounded

end Rowsmith.Source.Grammar

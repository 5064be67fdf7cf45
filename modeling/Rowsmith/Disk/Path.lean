/-
# Paths

Paths of files as texts. Two spellings mean the same path if they have the same components: repeated
slashes, a slash at the end and steps to the same directory count for nothing, except for such a
step at the very start.
-/

namespace Rowsmith.Disk

/-- A component of a path. -/
inductive Component where
  | root
  /-- A step to the same directory at the start of a path. -/
  | current
  | parent
  | normal (name : String)
  deriving DecidableEq, Repr

namespace Component

/-- Position of the kind of a component in the order of components. -/
def rank : Component → Nat
  | root => 0
  | current => 1
  | parent => 2
  | normal _ => 3

/-- The component as text. -/
def text : Component → String
  | root => "/"
  | current => "."
  | parent => ".."
  | normal name => name

/-- Whether `a` comes before `b`. -/
def before (a b : Component) : Bool :=
  match a, b with
  | normal x, normal y => x < y
  | a, b => a.rank < b.rank

end Component

namespace Path

/-- Cuts `cs` at slashes, where `word` is the part read so far, last character first. -/
def cutSlashes (word : List Char) : List Char → List String
  | [] => [String.ofList word.reverse]
  | c :: cs =>
    if c = '/' then String.ofList word.reverse :: cutSlashes [] cs else cutSlashes (c :: word) cs

/-- The parts of a path between slashes. -/
def parts (p : String) : List String :=
  cutSlashes [] p.toList

/-- Whether the path starts at the root. -/
def isAbsolute (p : String) : Bool :=
  p.startsWith "/"

/-- The component that a part stands for, if it stands for one. -/
def ofPart? : String → Option Component
  | "" | "." => none
  | ".." => some .parent
  | name => some (.normal name)

/-- The components of a path. -/
def components (p : String) : List Component :=
  let ps := parts p
  let start := if isAbsolute p then [Component.root]
    else if ps.head? = some "." then [.current]
    else []
  start ++ ps.filterMap ofPart?

/-- `p` continued by `q`. A path that starts at the root continues nothing. -/
def join (p q : String) : String :=
  if isAbsolute q || p.isEmpty then q
  else if p.endsWith "/" then p ++ q
  else p ++ "/" ++ q

/-- Whether `p` starts with the components of `q`. -/
def startsWith (p q : String) : Bool :=
  (components q).isPrefixOf (components p)

/-- Whether two spellings mean the same path. -/
def same (p q : String) : Bool :=
  components p == components q

/-- Whether the components `a` come before the components `b`. -/
def componentsBefore : List Component → List Component → Bool
  | _, [] => false
  | [], _ :: _ => true
  | a :: as, b :: bs => a.before b || a == b && componentsBefore as bs

/-- Whether `p` comes before `q` or means the same path. -/
def notAfter (p q : String) : Bool :=
  !componentsBefore (components q) (components p)

/-- A name without its extension: without the last point and what follows it, unless the point
comes first. -/
def stemOfName (name : String) : String :=
  let cs := name.toList
  match cs.reverse.dropWhile (· != '.') with
  | _ :: before => if before.isEmpty then name else String.ofList before.reverse
  | [] => name

/-- Whether a part of a path counts for nothing where it does not come first. -/
def isIdle (part : String) : Bool :=
  part.isEmpty || part == "."

/-- The part of a path, as written, up to the end of the component before the last; none for a path
without a directory. -/
def parent? (p : String) : Option String :=
  match (components p).getLast? with
  | none | some .root => none
  | some last =>
    let back := (parts p).reverse
    let back := if last = .current then back.drop back.length
      else (back.dropWhile isIdle).drop 1
    let kept := match (back.dropWhile isIdle).reverse with
      | [] =>
        if isAbsolute p then ["", ""]
        else if (parts p).head? = some "." && last ≠ .current then ["."]
        else []
      | kept => kept
    some ("/".intercalate kept)

/-- The path `p` and at most `n` paths above it, the nearest first. -/
def climb : (n : Nat) → (p : String) → List String
  | 0, p => [p]
  | n + 1, p => p :: (parent? p).elim [] (climb n)

/-- A path and all paths above it, the nearest first. -/
def ancestors (p : String) : List String :=
  climb (components p).length p

/-- The parts that are left after the first `n` components, where idle parts before them go too. -/
def dropSteps : (n : Nat) → List String → List String
  | 0, ps => ps
  | n + 1, ps => dropSteps n ((ps.dropWhile isIdle).drop 1)

/-- What is left of a path, as written, after the components of `q` at its start; none if it does
not start with them. -/
def remainder? (p q : String) : Option String :=
  if startsWith p q then
    let rest := match components p, (components q).length with
      | _, 0 => parts p
      | .root :: _, n + 1 | .current :: _, n + 1 => (dropSteps n ((parts p).drop 1)).dropWhile isIdle
      | _, n => (dropSteps n (parts p)).dropWhile isIdle
    some ("/".intercalate (rest.reverse.dropWhile isIdle).reverse)
  else none

end Path

end Rowsmith.Disk

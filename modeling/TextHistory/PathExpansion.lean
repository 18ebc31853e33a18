import TextHistory.Unicode.Alphanumeric

/-!
# Path expansion

Paths in settings may name variables and the home directory. Expansion is done once, from left
to right: first `$NAME`, `${NAME}` and `${NAME:-default}` are replaced by the values of variables,
then a tilde at the front by the home directory. What comes out of a variable is not expanded
again; in particular a tilde that comes out of one at the front stays.

A set variable counts even when it is empty, so a default stands in only for a missing one. A
missing variable without a default is an error.
-/

namespace TextHistory

/-- The variables that paths may name. -/
structure Environment where
  /-- The variables and their values; of two of the same name the first counts. -/
  bindings : List (String × String)

/-- The value of a variable. A variable is kept as its name, an equals sign and its value, and the
name looked up may reach to any equals sign: where `A` has the value `b=c`, `A=b` has the value
`c`. -/
def Environment.get? (env : Environment) (name : String) : Option String :=
  env.bindings.findSome? fun b ↦
    ((name.toList ++ ['=']).isPrefixOf? (b.1.toList ++ '=' :: b.2.toList)).map String.ofList

namespace PathExpansion

/-- Characters of a variable's name outside braces. -/
def isNameChar (c : Char) : Bool := c == '_' || CharSet.alphanumeric.contains c

/-- Splits the inside of braces at the first `:-`, if there is one. -/
def splitDefault : List Char → List Char × Option (List Char)
  | [] => ([], none)
  | ':' :: '-' :: s => ([], some s)
  | c :: s =>
    let (name, default?) := splitDefault s
    (c :: name, default?)

/-- The name and the default inside braces. A default needs a name before it. -/
def nameAndDefault (inside : List Char) : List Char × Option (List Char) :=
  match splitDefault inside with
  | ([], some _) => (inside, none)
  | r => r

/-- The value of a variable, or else the default, or else the name as an error. -/
def valueOf (env : Environment) (name : List Char) (default? : Option (List Char)) :
    Except String (List Char) :=
  match env.get? (String.ofList name), default? with
  | some value, _ => .ok value.toList
  | none, some d => .ok d
  | none, none => .error (String.ofList name)

/-- Replaces the variables in a text by their values. Fails with the name of the first variable
that is missing. -/
def expandVariables (env : Environment) : List Char → Except String (List Char)
  | [] => .ok []
  | '$' :: s =>
    match s with
    | '$' :: r => do
      let tail ← expandVariables env r
      return '$' :: tail
    | '\x7b' :: r =>
      match hr : r.dropWhile (· != '\x7d') with
      | [] => do
        let tail ← expandVariables env r
        return '$' :: '\x7b' :: tail
      | _ :: after => do
        have : after.length < r.length := by
          have := (List.dropWhile_sublist (· != '\x7d') (l := r)).length_le
          rw [hr] at this
          exact this
        let (name, default?) := nameAndDefault (r.takeWhile (· != '\x7d'))
        let value ← valueOf env name default?
        let tail ← expandVariables env after
        return value ++ tail
    | c :: r =>
      if isNameChar c then do
        have := (List.dropWhile_sublist isNameChar (l := r)).length_le
        let value ← valueOf env (c :: r.takeWhile isNameChar) none
        let tail ← expandVariables env (r.dropWhile isNameChar)
        return value ++ tail
      else do
        let tail ← expandVariables env (c :: r)
        return '$' :: tail
    | [] => .ok ['$']
  | c :: s => do
    let tail ← expandVariables env s
    return c :: tail
termination_by s => s.length
decreasing_by all_goals simp only [List.length_cons]; omega

/-- Replaces a tilde at the front, alone or before a slash, by the home directory. -/
def expandTilde (env : Environment) (s : List Char) : List Char :=
  match s with
  | '~' :: r =>
    if r.isEmpty || r.head? == some '/' then
      match env.get? "HOME" with
      | some home => home.toList ++ r
      | none => s
    else s
  | _ => s

end PathExpansion

/-- A path with its variables and its tilde expanded. Fails with the name of the first variable
that is missing. -/
def expandPath (env : Environment) (path : String) : Except String String := do
  let s ← PathExpansion.expandVariables env path.toList
  let fromVariable := path.toList.head? != some '~' && s.head? == some '~'
  return String.ofList (if fromVariable then s else PathExpansion.expandTilde env s)

/-- A path with a relative path appended; an absolute path stands for itself. -/
def joinPath (dir path : String) : String :=
  let d := dir.toList
  if path.toList.head? == some '/' then path
  else if d.isEmpty || d.getLast? == some '/' then dir ++ path
  else dir ++ "/" ++ path

end TextHistory

/-!
Request targets: a path, and what is asked of it behind a question mark. A number sign ends the
target; what follows it is not sent.
-/

namespace CompositeApps

structure HttpTarget where
  path : String
  query : Option String := none
  deriving DecidableEq, Repr, Inhabited

namespace HttpTarget

/-- Controls, blanks, angle brackets and the grave accent may not stand in a path. -/
def allowedInPath (c : Char) : Bool :=
  0x21 ≤ c.toNat && c ≠ '<' && c ≠ '>' && c.toNat ≠ 0x60

/-- In a query the grave accent may stand, and the double quote may not. -/
def allowedInQuery (c : Char) : Bool :=
  0x21 ≤ c.toNat && c ≠ '<' && c ≠ '>' && c ≠ '"'

def parse? (text : String) : Option HttpTarget :=
  let sent := text.toList.takeWhile (· ≠ '#')
  let path := sent.takeWhile (· ≠ '?')
  if !path.all allowedInPath then none
  else match sent.drop path.length with
    | [] => some ⟨String.ofList path, none⟩
    | _ :: query =>
      if query.all allowedInQuery then some ⟨String.ofList path, some (String.ofList query)⟩
      else none

def text (t : HttpTarget) : String :=
  match t.query with
  | none => t.path
  | some query => t.path ++ "?" ++ query

end HttpTarget

end CompositeApps

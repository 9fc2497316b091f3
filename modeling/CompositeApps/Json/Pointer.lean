import CompositeApps.Json.Basic

/-!
JSON pointers: reading a value inside another one, and editing it in place.
-/

namespace CompositeApps.Json

/-- In a pointer `~1` stands for a slash and `~0` for a tilde. -/
def unescapeToken : List Char → List Char
  | '~' :: '1' :: rest => '/' :: unescapeToken rest
  | '~' :: '0' :: rest => '~' :: unescapeToken rest
  | c :: rest => c :: unescapeToken rest
  | [] => []

def splitSlashes : List Char → List (List Char)
  | [] => [[]]
  | c :: rest =>
    match splitSlashes rest with
    | [] => [[]]
    | part :: parts => if c = '/' then [] :: part :: parts else (c :: part) :: parts

/-- The tokens of a pointer: none for the empty one; every other one starts with a slash. -/
def pointerTokens? (pointer : String) : Option (List String) :=
  match pointer.toList with
  | [] => some []
  | '/' :: rest => some ((splitSlashes rest).map fun t => String.ofList (unescapeToken t))
  | _ => none

def arrayIndex? (token : String) : Option Nat :=
  match token.toList with
  | ['0'] => some 0
  | '0' :: _ => none
  | [] => none
  | cs => if cs.all Char.isDigit then some (Nat.ofDigitChars 10 cs 0) else none

def step? (token : String) : Json → Option Json
  | .obj fields => lookup token fields
  | .arr items => (arrayIndex? token).bind (items[·]?)
  | _ => none

def pointer? (pointer : String) (v : Json) : Option Json := do
  (← pointerTokens? pointer).foldlM (fun v token => step? token v) v

def editAt (edit : Json → Option Json) : List String → Json → Option Json
  | [], v => edit v
  | token :: tokens, v =>
    match v with
    | .obj fields => do
      let inner ← lookup token fields
      return .obj (insertField token (← editAt edit tokens inner) fields)
    | .arr items => do
      let i ← arrayIndex? token
      let inner ← items[i]?
      return .arr (items.set i (← editAt edit tokens inner))
    | _ => none

def splitPointer? (pointer : String) : Option (List String × String) := do
  let tokens ← pointerTokens? pointer
  let last ← tokens.getLast?
  return (tokens.dropLast, last)

/-- Removes an object's field, if it has it, or an array's element, which must exist. -/
def removeAt? (pointer : String) (v : Json) : Option Json := do
  let (path, last) ← splitPointer? pointer
  editAt (fun
    | .obj fields => some (.obj (eraseField last fields))
    | .arr items => do
      let i ← arrayIndex? last
      if i < items.length then some (.arr (items.eraseIdx i)) else none
    | _ => none) path v

/-- Sets an object's field, replaces an array's element, or appends to an array under `-`. -/
def setAt? (pointer : String) (value : Json) (v : Json) : Option Json := do
  let (path, last) ← splitPointer? pointer
  editAt (fun
    | .obj fields => some (.obj (insertField last value fields))
    | .arr items =>
      if last = "-" then some (.arr (items ++ [value]))
      else do
        let i ← arrayIndex? last
        if i < items.length then some (.arr (items.set i value)) else none
    | _ => none) path v

end CompositeApps.Json

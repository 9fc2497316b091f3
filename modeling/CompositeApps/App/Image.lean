/-!
Image references: the tag of an image, and the image of a version whose builds mark the repository
with the version.
-/

namespace CompositeApps.Image

def afterLast (sep : Char) (cs : List Char) : List Char :=
  (cs.reverse.takeWhile (· ≠ sep)).reverse

/-- Everything but the occurrences of `mark`, which are looked for from left to right and do not
overlap. The number says how many characters of an occurrence are still to be skipped. -/
def removeOccurrences (mark : List Char) : Nat → List Char → List Char
  | _, [] => []
  | skip + 1, _ :: cs => removeOccurrences mark skip cs
  | 0, c :: cs =>
    if mark.isPrefixOf (c :: cs) then removeOccurrences mark (mark.length - 1) cs
    else c :: removeOccurrences mark 0 cs

/-- The image that a version runs: the given one without `_` and the version. -/
def reference (image version : String) : String :=
  if version = "" then image
  else String.ofList (removeOccurrences ('_' :: version.toList) 0 image.toList)

def lastComponent (image : List Char) : List Char :=
  (afterLast '/' image).takeWhile (· ≠ '@')

def tagChars (image : List Char) : List Char :=
  let last := lastComponent image
  if last.contains ':' then afterLast ':' last else "latest".toList

def tag (image : String) : String :=
  String.ofList (tagChars image.toList)

end CompositeApps.Image

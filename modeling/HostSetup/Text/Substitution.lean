/-!
Replacing every occurrence of a word, from left to right and without overlap. What has been put
in is not searched again.
-/
namespace HostSetup.Text

/-- `skip` characters of the occurrence that was replaced last are still to be passed over. -/
def substituteFrom (target new : List Char) : Nat → List Char → List Char
  | _, [] => []
  | skip + 1, _ :: cs => substituteFrom target new skip cs
  | 0, c :: cs =>
    if target.isPrefixOf (c :: cs) then new ++ substituteFrom target new (target.length - 1) cs
    else c :: substituteFrom target new 0 cs

/-- `target` is not empty. -/
def substitute (target new : String) (s : String) : String :=
  .ofList (substituteFrom target.toList new.toList 0 s.toList)

end HostSetup.Text

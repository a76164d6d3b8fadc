/-!
# Import lines

A dotted location names a module and a member of it; the last dot separates the two.
-/

namespace Grounding

def importLine (location : String) : String :=
  let name := (location.toList.reverse.takeWhile (· != '.')).reverse
  let package := location.toList.take (location.toList.length - name.length - 1)
  if package.isEmpty then "import " ++ String.ofList name
  else "from " ++ String.ofList package ++ " import " ++ String.ofList name

example : importLine "client.local.*" = "from client.local import *" := by decide

end Grounding

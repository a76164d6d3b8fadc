import Grounding.Text.Lowercase

/-!
# Service addresses

Where a driver finds the service, worked out from the endpoint it was given.
-/

namespace Grounding.Endpoint

/-- The root under which the operations of a REST service lie. -/
def restRoot (endpoint : String) : String :=
  if endpoint.toList.getLast? == some '/' then endpoint else endpoint ++ "/"

/-- The address of a service description: the endpoint itself, if it names one. -/
def wsdl (endpoint system : String) : String :=
  if "?wsdl".toList.isSuffixOf (Text.lower endpoint.toList) then endpoint
  else
    let base := (endpoint.toList.reverse.dropWhile (· == '/')).reverse
    String.ofList base ++ "/" ++ system ++ "?wsdl"

end Grounding.Endpoint

import LifecycleOperator.Release.Manifest
import LifecycleOperator.Rest.Client

/-!
# Release server

Release manifests are found at the addresses that users write.
-/

namespace LifecycleOperator
namespace Manifest

def fetch (agent url : String) : Wire Manifest := do
  let text ← (RestClient.ofBase agent url).getText ""
  Program.ofExcept (read text)

end Manifest
end LifecycleOperator

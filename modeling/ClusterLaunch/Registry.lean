import ClusterLaunch.Text.Blank

/-!
The public registries. An image name already says which of them it comes from,
so declaring one of them changes nothing; blanks around an address and slashes
at its end make no difference.
-/

namespace ClusterLaunch.Registry

/-- The addresses of the public registries, without a slash at the end. -/
def publicAddresses : List String :=
  ["https://hub.docker.com", "https://singularity-hub.org"]

/-- An address without the blanks around it and the slashes at its end. -/
def bare (url : String) : List Char :=
  Text.stripEnd (· == '/') (Text.trim url.toList)

def isPublic (url : String) : Bool :=
  publicAddresses.any fun known => known.toList == bare url

end ClusterLaunch.Registry

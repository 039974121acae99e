import GracefulDrain.Text.Percent
import GracefulDrain.Text.Split

namespace GracefulDrain.Http.Query

def keyOf (segment : List UInt8) : List UInt8 :=
  Text.percentDecode
    ((segment.takeWhile (· ≠ 0x3D)).map fun b => if b = 0x2B then 0x20 else b)

/-- The parameter with which deployment tooling marks its probes. -/
def deployerKey : String := "deployer"

/-- Whether the marking parameter is present; its value does not matter. -/
def marksDeployer (query : String) : Bool :=
  (Text.splitOn 0x26 (Text.utf8Bytes query)).any fun s => keyOf s = Text.utf8Bytes deployerKey

end GracefulDrain.Http.Query

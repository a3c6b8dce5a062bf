import Mathlib.Data.List.Basic

/-!
The constants of the program that the model reads.
-/

namespace Xcplane.Constants

def sshPort : UInt16 := 79
def nginxPort : UInt16 := 443
def unboundPort : UInt16 := 444
def uiPort : UInt16 := 400
def subPort : UInt16 := 401
def ansiblePort : UInt16 := 22
def rootUser : String := "root"

def cloudflareSports : List UInt16 := [2053, 2083, 2087, 2096, 8443]

def svcTimeout : UInt64 := 7
def minMonInterval : UInt64 := 3 * svcTimeout
def svcMonInterval : UInt64 := 60
def fixThreshold : UInt64 := 10

def retainedXuiDbnum : Nat := 4320

/-- The codes that a cycle of the daemon ends with. -/
def exitOk : Int8 := 0
def exitRestart : Int8 := 20
def exitReload : Int8 := 21
def exitRemap : Int8 := 22
def exitRebase : Int8 := 23

/-- The ports that no inbound may use, in the order they are checked. -/
def reservedPorts : List UInt16 := [sshPort, nginxPort, uiPort, subPort, unboundPort]

end Xcplane.Constants

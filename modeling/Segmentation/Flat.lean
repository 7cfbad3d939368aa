import Segmentation.Descriptor

namespace Segmentation

inductive Mode where
  | protectedMode | longMode
  deriving DecidableEq

namespace Mode

def name : Mode → String
  | .protectedMode => "Protected"
  | .longMode => "Long"

def codeGranularity : Mode → GranularityFlags
  | .protectedMode => .pages ||| .size32
  | .longMode => .pages ||| .longMode

def dataGranularity : Mode → GranularityFlags := fun _ => .pages ||| .size32

end Mode

namespace Descriptor

def flat (access : AccessFlags) (granularity : GranularityFlags) : Descriptor :=
  encode 0 maxLimit access granularity

def codeAccess : AccessFlags := .present ||| .system ||| .executable ||| .readWrite

def dataAccess : AccessFlags := .present ||| .system ||| .readWrite

def kernelCode (m : Mode) : Descriptor := flat (codeAccess ||| .ring0) m.codeGranularity

def kernelData (m : Mode) : Descriptor := flat (dataAccess ||| .ring0) m.dataGranularity

def userCode (m : Mode) : Descriptor := flat (codeAccess ||| .ring3) m.codeGranularity

def userData (m : Mode) : Descriptor := flat (dataAccess ||| .ring3) m.dataGranularity

end Descriptor

end Segmentation

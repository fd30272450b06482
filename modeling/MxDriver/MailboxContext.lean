import MxDriver.ErrorNumbers
import MxDriver.MailboxIndex

/-!
# The context word of a mailbox

The device keeps a word for each mailbox, with the place and the size of its ring in the
data array and with its head and tail.  The driver reads it when a mailbox is registered
and whenever its own copy of the head may be too old.
-/

namespace MxDriver

/-- `struct mx_mbox` without the cached context and the lock. -/
structure MxMbox where
  rCtxAddr : BitVec 64
  wCtxAddr : BitVec 64
  dataAddr : BitVec 64
  depth : Nat
  deriving DecidableEq, Repr

/-- The fields `data_base` and `q_size` of the context are bits 24 to 39 and 40 to 43. -/
def mxMboxInit (ctxAddr dataAddr ctx : BitVec 64) : MxMbox where
  rCtxAddr := ctxAddr
  wCtxAddr := ctxAddr ||| 1 <<< 18
  dataAddr := dataAddr + 8 * (ctx.extractLsb' 24 16).setWidth 64
  depth := 2 ^ (ctx.extractLsb' 40 4).toNat

/-- What `read_ctrl_from_device` returns: a negative number, 0, or the word. -/
inductive CtxRead
  | failed (error : Errno)
  | nothing
  | word (ctx : BitVec 64)

def createMxMbox (ctxAddr dataAddr : BitVec 64) (read : CtxRead) (allocated : Bool) :
    Except Errno MxMbox :=
  match read with
  | .failed error => .error error
  | .nothing => .error .eio
  | .word ctx =>
    if ctx = BitVec.allOnes 64 then .error .einval
    else if allocated then .ok (mxMboxInit ctxAddr dataAddr ctx)
    else .error .enomem

/-- The head in the word that was read, unless the read failed: bits 56 to 63. -/
def CtxRead.head : CtxRead → Option MboxIndex
  | .failed _ | .nothing => none
  | .word ctx => some ⟨ctx.extractLsb' 56 7, ctx.getLsbD 63⟩

end MxDriver

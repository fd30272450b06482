import Mathlib.Tactic.Common

/-!
# Return codes and revisions

A C function that can fail returns a negated error number.  There are two revisions of the
hardware, and the driver has one set of functions for each.
-/

namespace MxDriver

/-- The error numbers that the driver returns. -/
inductive Errno
  | eperm | eintr | eio | enxio | eagain | eacces | efault | ebusy | exdev | enodev | einval
  | eoverflow | ealready | estale | euclean | eopnotsupp | enomem | etimedout
  deriving DecidableEq, Repr

/-- A C return code: `none` is 0 and `some error` is the negated number. -/
abbrev Ret := Option Errno

/-- The revisions of the hardware. -/
inductive Revision
  | v1
  | v2
  deriving DecidableEq, Repr

end MxDriver

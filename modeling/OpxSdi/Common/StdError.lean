/-!
# Return codes

`t_std_error` is `STD_ERR_OK` or a code built from an `errno` value. The macros `SDI_ERRCODE` and
`SDI_DEVICE_ERRCODE` build the same code, `SDI_ERRNO` and `SDI_DEVICE_ERRNO` take the current `errno`.
-/

namespace OpxSdi

inductive Errno
  | eperm | enxio | eio | e2big | enomem | efault | einval | emsgsize | enodata | ebadmsg | enotsup | eopnotsupp
  /-- The value of `errno` at the failing call. -/
  | current
  /-- `~STD_ERR_OK`, which is no `errno` value. -/
  | notOk
  /-- `SDI_DEVICE_ERR_PARAM`, which has none. -/
  | param
  deriving DecidableEq, Repr

inductive TStdError
  | ok
  | errcode (e : Errno)
  deriving DecidableEq, Repr

namespace TStdError

def errno : TStdError := .errcode .current

end TStdError

end OpxSdi

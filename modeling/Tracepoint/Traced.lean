import Tracepoint.Schema.Basic

/-!
# The traced syscalls

The twelve syscalls that captured buffers are decoded for, as compiling their tracepoint formats
describes them.
-/

set_option autoImplicit false

namespace Tracepoint.Traced

/-- The syscall `chmod`. -/
def chmodCall : Syscall DecoderType :=
  ⟨"chmod", "ChmodEvent", .nulTerminated, [
    ⟨0, "filename", "Filename", "const char *", .buffer, false⟩,
    ⟨1, "mode", "Mode", "umode_t", .u64, false⟩]⟩

/-- The syscall `chown`. -/
def chownCall : Syscall DecoderType :=
  ⟨"chown", "ChownEvent", .nulTerminated, [
    ⟨0, "filename", "Filename", "const char *", .buffer, false⟩,
    ⟨1, "user", "User", "uid_t", .u32, false⟩,
    ⟨2, "group", "Group", "gid_t", .u32, false⟩]⟩

/-- The syscall `close`. -/
def closeCall : Syscall DecoderType :=
  ⟨"close", "CloseEvent", .nulTerminated, [
    ⟨0, "fd", "Fd", "unsigned int", .u64, true⟩]⟩

/-- The syscall `fchmod`. -/
def fchmodCall : Syscall DecoderType :=
  ⟨"fchmod", "FchmodEvent", .nulTerminated, [
    ⟨0, "fd", "Fd", "unsigned int", .u64, true⟩,
    ⟨1, "mode", "Mode", "umode_t", .u64, false⟩]⟩

/-- The syscall `fchmodat`. -/
def fchmodatCall : Syscall DecoderType :=
  ⟨"fchmodat", "FchmodatEvent", .nulTerminated, [
    ⟨0, "dfd", "Dfd", "int", .i64, true⟩,
    ⟨1, "filename", "Filename", "const char *", .buffer, false⟩,
    ⟨2, "mode", "Mode", "umode_t", .u64, false⟩]⟩

/-- The syscall `fchown`. -/
def fchownCall : Syscall DecoderType :=
  ⟨"fchown", "FchownEvent", .nulTerminated, [
    ⟨0, "fd", "Fd", "unsigned int", .u64, true⟩,
    ⟨1, "user", "User", "uid_t", .u32, false⟩,
    ⟨2, "group", "Group", "gid_t", .u32, false⟩]⟩

/-- The syscall `fchownat`. -/
def fchownatCall : Syscall DecoderType :=
  ⟨"fchownat", "FchownatEvent", .nulTerminated, [
    ⟨0, "dfd", "Dfd", "int", .i64, true⟩,
    ⟨1, "filename", "Filename", "const char *", .buffer, false⟩,
    ⟨2, "user", "User", "uid_t", .u32, false⟩,
    ⟨3, "group", "Group", "gid_t", .u32, false⟩,
    ⟨4, "flag", "Flag", "int", .i64, false⟩]⟩

/-- The syscall `mkdir`. -/
def mkdirCall : Syscall DecoderType :=
  ⟨"mkdir", "MkdirEvent", .nulTerminated, [
    ⟨0, "pathname", "Pathname", "const char *", .buffer, false⟩,
    ⟨1, "mode", "Mode", "umode_t", .u64, false⟩]⟩

/-- The syscall `mkdirat`. -/
def mkdiratCall : Syscall DecoderType :=
  ⟨"mkdirat", "MkdiratEvent", .nulTerminated, [
    ⟨0, "dfd", "Dfd", "int", .i64, true⟩,
    ⟨1, "pathname", "Pathname", "const char *", .buffer, false⟩,
    ⟨2, "mode", "Mode", "umode_t", .u64, false⟩]⟩

/-- The syscall `open`. -/
def openCall : Syscall DecoderType :=
  ⟨"open", "OpenEvent", .nulTerminated, [
    ⟨0, "filename", "Filename", "const char *", .buffer, false⟩,
    ⟨1, "flags", "Flags", "int", .i64, false⟩,
    ⟨2, "mode", "Mode", "umode_t", .u64, false⟩]⟩

/-- The syscall `read`. -/
def readCall : Syscall DecoderType :=
  ⟨"read", "ReadEvent", .returnBounded, [
    ⟨0, "fd", "Fd", "unsigned int", .u64, true⟩,
    ⟨1, "buf", "Buf", "char *", .buffer, false⟩,
    ⟨2, "count", "Count", "size_t", .i64, false⟩]⟩

/-- The syscall `write`. -/
def writeCall : Syscall DecoderType :=
  ⟨"write", "WriteEvent", .returnBounded, [
    ⟨0, "fd", "Fd", "unsigned int", .u64, true⟩,
    ⟨1, "buf", "Buf", "const char *", .buffer, false⟩,
    ⟨2, "count", "Count", "size_t", .i64, false⟩]⟩

/-- All traced syscalls, by name. -/
def all : List (Syscall DecoderType) := [
  chmodCall, chownCall, closeCall, fchmodCall, fchmodatCall, fchownCall, fchownatCall,
  mkdirCall, mkdiratCall, openCall, readCall, writeCall]

end Tracepoint.Traced

/-!
# Bundled tracepoint formats

The `format` texts of the traced syscalls, as a kernel shows them under its tracing directory.
They serve where no such directory is at hand.
-/

set_option autoImplicit false

namespace Tracepoint.Bundled

/-- The format of `chmod`. -/
def chmodFormat : String :=
  "name: sys_enter_chmod\n" ++
  "ID: 593\n" ++
  "format:\n" ++
  "\tfield:unsigned short common_type;\toffset:0;\tsize:2;\tsigned:0;\n" ++
  "\tfield:unsigned char common_flags;\toffset:2;\tsize:1;\tsigned:0;\n" ++
  "\tfield:unsigned char common_preempt_count;\toffset:3;\tsize:1;\tsigned:0;\n" ++
  "\tfield:int common_pid;\toffset:4;\tsize:4;\tsigned:1;\n" ++
  "\n" ++
  "\tfield:int __syscall_nr;\toffset:8;\tsize:4;\tsigned:1;\n" ++
  "\tfield:const char * filename;\toffset:16;\tsize:8;\tsigned:0;\n" ++
  "\tfield:umode_t mode;\toffset:24;\tsize:8;\tsigned:0;\n" ++
  "\n" ++
  "print fmt: \"filename: 0x%08lx, mode: 0x%08lx\", ((unsigned long)(REC->filename)), ((unsigned long)(REC->mode))\n"

/-- The format of `chown`. -/
def chownFormat : String :=
  "name: sys_enter_chown\n" ++
  "ID: 583\n" ++
  "format:\n" ++
  "\tfield:unsigned short common_type;\toffset:0;\tsize:2;\tsigned:0;\n" ++
  "\tfield:unsigned char common_flags;\toffset:2;\tsize:1;\tsigned:0;\n" ++
  "\tfield:unsigned char common_preempt_count;\toffset:3;\tsize:1;\tsigned:0;\n" ++
  "\tfield:int common_pid;\toffset:4;\tsize:4;\tsigned:1;\n" ++
  "\n" ++
  "\tfield:int __syscall_nr;\toffset:8;\tsize:4;\tsigned:1;\n" ++
  "\tfield:const char * filename;\toffset:16;\tsize:8;\tsigned:0;\n" ++
  "\tfield:uid_t user;\toffset:24;\tsize:8;\tsigned:0;\n" ++
  "\tfield:gid_t group;\toffset:32;\tsize:8;\tsigned:0;\n" ++
  "\n" ++
  "print fmt: \"filename: 0x%08lx, user: 0x%08lx, group: 0x%08lx\", ((unsigned long)(REC->filename)), ((unsigned long)(REC->user)), ((unsigned long)(REC->group))\n"

/-- The format of `close`. -/
def closeFormat : String :=
  "name: sys_enter_close\n" ++
  "ID: 627\n" ++
  "format:\n" ++
  "\tfield:unsigned short common_type;\toffset:0;\tsize:2;\tsigned:0;\n" ++
  "\tfield:unsigned char common_flags;\toffset:2;\tsize:1;\tsigned:0;\n" ++
  "\tfield:unsigned char common_preempt_count;\toffset:3;\tsize:1;\tsigned:0;\n" ++
  "\tfield:int common_pid;\toffset:4;\tsize:4;\tsigned:1;\n" ++
  "\n" ++
  "\tfield:int __syscall_nr;\toffset:8;\tsize:4;\tsigned:1;\n" ++
  "\tfield:unsigned int fd;\toffset:16;\tsize:8;\tsigned:0;\n" ++
  "\n" ++
  "print fmt: \"fd: 0x%08lx\", ((unsigned long)(REC->fd))\n"

/-- The format of `fchmod`. -/
def fchmodFormat : String :=
  "name: sys_enter_fchmod\n" ++
  "ID: 597\n" ++
  "format:\n" ++
  "\tfield:unsigned short common_type;\toffset:0;\tsize:2;\tsigned:0;\n" ++
  "\tfield:unsigned char common_flags;\toffset:2;\tsize:1;\tsigned:0;\n" ++
  "\tfield:unsigned char common_preempt_count;\toffset:3;\tsize:1;\tsigned:0;\n" ++
  "\tfield:int common_pid;\toffset:4;\tsize:4;\tsigned:1;\n" ++
  "\n" ++
  "\tfield:int __syscall_nr;\toffset:8;\tsize:4;\tsigned:1;\n" ++
  "\tfield:unsigned int fd;\toffset:16;\tsize:8;\tsigned:0;\n" ++
  "\tfield:umode_t mode;\toffset:24;\tsize:8;\tsigned:0;\n" ++
  "\n" ++
  "print fmt: \"fd: 0x%08lx, mode: 0x%08lx\", ((unsigned long)(REC->fd)), ((unsigned long)(REC->mode))\n"

/-- The format of `fchmodat`. -/
def fchmodatFormat : String :=
  "name: sys_enter_fchmodat\n" ++
  "ID: 595\n" ++
  "format:\n" ++
  "\tfield:unsigned short common_type;\toffset:0;\tsize:2;\tsigned:0;\n" ++
  "\tfield:unsigned char common_flags;\toffset:2;\tsize:1;\tsigned:0;\n" ++
  "\tfield:unsigned char common_preempt_count;\toffset:3;\tsize:1;\tsigned:0;\n" ++
  "\tfield:int common_pid;\toffset:4;\tsize:4;\tsigned:1;\n" ++
  "\n" ++
  "\tfield:int __syscall_nr;\toffset:8;\tsize:4;\tsigned:1;\n" ++
  "\tfield:int dfd;\toffset:16;\tsize:8;\tsigned:0;\n" ++
  "\tfield:const char * filename;\toffset:24;\tsize:8;\tsigned:0;\n" ++
  "\tfield:umode_t mode;\toffset:32;\tsize:8;\tsigned:0;\n" ++
  "\n" ++
  "print fmt: \"dfd: 0x%08lx, filename: 0x%08lx, mode: 0x%08lx\", ((unsigned long)(REC->dfd)), ((unsigned long)(REC->filename)), ((unsigned long)(REC->mode))\n"

/-- The format of `fchown`. -/
def fchownFormat : String :=
  "name: sys_enter_fchown\n" ++
  "ID: 589\n" ++
  "format:\n" ++
  "\tfield:unsigned short common_type;\toffset:0;\tsize:2;\tsigned:0;\n" ++
  "\tfield:unsigned char common_flags;\toffset:2;\tsize:1;\tsigned:0;\n" ++
  "\tfield:unsigned char common_preempt_count;\toffset:3;\tsize:1;\tsigned:0;\n" ++
  "\tfield:int common_pid;\toffset:4;\tsize:4;\tsigned:1;\n" ++
  "\n" ++
  "\tfield:int __syscall_nr;\toffset:8;\tsize:4;\tsigned:1;\n" ++
  "\tfield:unsigned int fd;\toffset:16;\tsize:8;\tsigned:0;\n" ++
  "\tfield:uid_t user;\toffset:24;\tsize:8;\tsigned:0;\n" ++
  "\tfield:gid_t group;\toffset:32;\tsize:8;\tsigned:0;\n" ++
  "\n" ++
  "print fmt: \"fd: 0x%08lx, user: 0x%08lx, group: 0x%08lx\", ((unsigned long)(REC->fd)), ((unsigned long)(REC->user)), ((unsigned long)(REC->group))\n"

/-- The format of `fchownat`. -/
def fchownatFormat : String :=
  "name: sys_enter_fchownat\n" ++
  "ID: 587\n" ++
  "format:\n" ++
  "\tfield:unsigned short common_type;\toffset:0;\tsize:2;\tsigned:0;\n" ++
  "\tfield:unsigned char common_flags;\toffset:2;\tsize:1;\tsigned:0;\n" ++
  "\tfield:unsigned char common_preempt_count;\toffset:3;\tsize:1;\tsigned:0;\n" ++
  "\tfield:int common_pid;\toffset:4;\tsize:4;\tsigned:1;\n" ++
  "\n" ++
  "\tfield:int __syscall_nr;\toffset:8;\tsize:4;\tsigned:1;\n" ++
  "\tfield:int dfd;\toffset:16;\tsize:8;\tsigned:0;\n" ++
  "\tfield:const char * filename;\toffset:24;\tsize:8;\tsigned:0;\n" ++
  "\tfield:uid_t user;\toffset:32;\tsize:8;\tsigned:0;\n" ++
  "\tfield:gid_t group;\toffset:40;\tsize:8;\tsigned:0;\n" ++
  "\tfield:int flag;\toffset:48;\tsize:8;\tsigned:0;\n" ++
  "\n" ++
  "print fmt: \"dfd: 0x%08lx, filename: 0x%08lx, user: 0x%08lx, group: 0x%08lx, flag: 0x%08lx\", ((unsigned long)(REC->dfd)), ((unsigned long)(REC->filename)), ((unsigned long)(REC->user)), ((unsigned long)(REC->group)), ((unsigned long)(REC->flag))\n"

/-- The format of `mkdir`. -/
def mkdirFormat : String :=
  "name: sys_enter_mkdir\n" ++
  "ID: 549\n" ++
  "format:\n" ++
  "\tfield:unsigned short common_type;\toffset:0;\tsize:2;\tsigned:0;\n" ++
  "\tfield:unsigned char common_flags;\toffset:2;\tsize:1;\tsigned:0;\n" ++
  "\tfield:unsigned char common_preempt_count;\toffset:3;\tsize:1;\tsigned:0;\n" ++
  "\tfield:int common_pid;\toffset:4;\tsize:4;\tsigned:1;\n" ++
  "\n" ++
  "\tfield:int __syscall_nr;\toffset:8;\tsize:4;\tsigned:1;\n" ++
  "\tfield:const char * pathname;\toffset:16;\tsize:8;\tsigned:0;\n" ++
  "\tfield:umode_t mode;\toffset:24;\tsize:8;\tsigned:0;\n" ++
  "\n" ++
  "print fmt: \"pathname: 0x%08lx, mode: 0x%08lx\", ((unsigned long)(REC->pathname)), ((unsigned long)(REC->mode))\n"

/-- The format of `mkdirat`. -/
def mkdiratFormat : String :=
  "name: sys_enter_mkdirat\n" ++
  "ID: 551\n" ++
  "format:\n" ++
  "\tfield:unsigned short common_type;\toffset:0;\tsize:2;\tsigned:0;\n" ++
  "\tfield:unsigned char common_flags;\toffset:2;\tsize:1;\tsigned:0;\n" ++
  "\tfield:unsigned char common_preempt_count;\toffset:3;\tsize:1;\tsigned:0;\n" ++
  "\tfield:int common_pid;\toffset:4;\tsize:4;\tsigned:1;\n" ++
  "\n" ++
  "\tfield:int __syscall_nr;\toffset:8;\tsize:4;\tsigned:1;\n" ++
  "\tfield:int dfd;\toffset:16;\tsize:8;\tsigned:0;\n" ++
  "\tfield:const char * pathname;\toffset:24;\tsize:8;\tsigned:0;\n" ++
  "\tfield:umode_t mode;\toffset:32;\tsize:8;\tsigned:0;\n" ++
  "\n" ++
  "print fmt: \"dfd: 0x%08lx, pathname: 0x%08lx, mode: 0x%08lx\", ((unsigned long)(REC->dfd)), ((unsigned long)(REC->pathname)), ((unsigned long)(REC->mode))\n"

/-- The format of `open`. -/
def openFormat : String :=
  "name: sys_enter_open\n" ++
  "ID: 629\n" ++
  "format:\n" ++
  "\tfield:unsigned short common_type;\toffset:0;\tsize:2;\tsigned:0;\n" ++
  "\tfield:unsigned char common_flags;\toffset:2;\tsize:1;\tsigned:0;\n" ++
  "\tfield:unsigned char common_preempt_count;\toffset:3;\tsize:1;\tsigned:0;\n" ++
  "\tfield:int common_pid;\toffset:4;\tsize:4;\tsigned:1;\n" ++
  "\n" ++
  "\tfield:int __syscall_nr;\toffset:8;\tsize:4;\tsigned:1;\n" ++
  "\tfield:const char * filename;\toffset:16;\tsize:8;\tsigned:0;\n" ++
  "\tfield:int flags;\toffset:24;\tsize:8;\tsigned:0;\n" ++
  "\tfield:umode_t mode;\toffset:32;\tsize:8;\tsigned:0;\n" ++
  "\n" ++
  "print fmt: \"filename: 0x%08lx, flags: 0x%08lx, mode: 0x%08lx\", ((unsigned long)(REC->filename)), ((unsigned long)(REC->flags)), ((unsigned long)(REC->mode))\n"

/-- The format of `read`. -/
def readFormat : String :=
  "name: sys_enter_read\n" ++
  "ID: 697\n" ++
  "format:\n" ++
  "\tfield:unsigned short common_type;\toffset:0;\tsize:2;\tsigned:0;\n" ++
  "\tfield:unsigned char common_flags;\toffset:2;\tsize:1;\tsigned:0;\n" ++
  "\tfield:unsigned char common_preempt_count;\toffset:3;\tsize:1;\tsigned:0;\n" ++
  "\tfield:int common_pid;\toffset:4;\tsize:4;\tsigned:1;\n" ++
  "\n" ++
  "\tfield:int __syscall_nr;\toffset:8;\tsize:4;\tsigned:1;\n" ++
  "\tfield:unsigned int fd;\toffset:16;\tsize:8;\tsigned:0;\n" ++
  "\tfield:char * buf;\toffset:24;\tsize:8;\tsigned:0;\n" ++
  "\tfield:size_t count;\toffset:32;\tsize:8;\tsigned:0;\n" ++
  "\n" ++
  "print fmt: \"fd: 0x%08lx, buf: 0x%08lx, count: 0x%08lx\", ((unsigned long)(REC->fd)), ((unsigned long)(REC->buf)), ((unsigned long)(REC->count))\n"

/-- The format of `write`. -/
def writeFormat : String :=
  "name: sys_enter_write\n" ++
  "ID: 695\n" ++
  "format:\n" ++
  "\tfield:unsigned short common_type;\toffset:0;\tsize:2;\tsigned:0;\n" ++
  "\tfield:unsigned char common_flags;\toffset:2;\tsize:1;\tsigned:0;\n" ++
  "\tfield:unsigned char common_preempt_count;\toffset:3;\tsize:1;\tsigned:0;\n" ++
  "\tfield:int common_pid;\toffset:4;\tsize:4;\tsigned:1;\n" ++
  "\n" ++
  "\tfield:int __syscall_nr;\toffset:8;\tsize:4;\tsigned:1;\n" ++
  "\tfield:unsigned int fd;\toffset:16;\tsize:8;\tsigned:0;\n" ++
  "\tfield:const char * buf;\toffset:24;\tsize:8;\tsigned:0;\n" ++
  "\tfield:size_t count;\toffset:32;\tsize:8;\tsigned:0;\n" ++
  "\n" ++
  "print fmt: \"fd: 0x%08lx, buf: 0x%08lx, count: 0x%08lx\", ((unsigned long)(REC->fd)), ((unsigned long)(REC->buf)), ((unsigned long)(REC->count))\n"

/-- The formats with the names of their syscalls, by name. -/
def formats : List (String × String) := [
  ("chmod", chmodFormat),
  ("chown", chownFormat),
  ("close", closeFormat),
  ("fchmod", fchmodFormat),
  ("fchmodat", fchmodatFormat),
  ("fchown", fchownFormat),
  ("fchownat", fchownatFormat),
  ("mkdir", mkdirFormat),
  ("mkdirat", mkdiratFormat),
  ("open", openFormat),
  ("read", readFormat),
  ("write", writeFormat)]

end Tracepoint.Bundled

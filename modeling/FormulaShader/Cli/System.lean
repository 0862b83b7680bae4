/-!
# The system around a run

A run reads its files from a Linux system, and a path may lead out of the run's working
directory into that system: up through `..`, from the root, or through the links the kernel
keeps for every process. This module models what a path can find there.

* The standard directories of a system, with the links of the merged `/usr` layout (`/bin`
  is `/usr/bin`), some ever-present text files under `/etc`, `/usr/lib` and `/proc`, and
  executables under `/usr/bin`.
* The devices that read as files: `/dev/null` reads as nothing, `/dev/stdin` reads standard
  input, and `/dev/tty` cannot be opened by a run without a terminal.
* `/proc/self`, the directory of the running process: `cwd` links to the working directory,
  `root` to `/`, `exe` is the program's own executable, `fd/0` is standard input, and
  `status`, `comm`, `cmdline`, `limits`, `mounts`, `io` and `fdinfo/0..2` are text. Its
  `task` directory holds the directory of the running thread, named by the thread's id,
  which no path given to a run can know: that directory, with the same entries, is reached
  through the link `/proc/thread-self` only. `/dev/fd` links to `/proc/self/fd`.
* The program's installation, which the caller gives as entries: the program's executable
  and the files beside it. Every directory above an installed entry exists.

A text file's contents are given as far as a reader of the file can tell them apart. A link
here always leads to a directory or to the working directory, so following one never meets
another.

Results:
* `systemEntry`: what a path of the system names.
* `threadEntry`: what a path below the running thread's directory names.
-/

namespace FormulaShader

namespace Cli

abbrev SystemPath := List String

/-- A device that reads as a file. -/
inductive Device where
  | null
  | stdin
  | terminal
  deriving Repr, DecidableEq

/-- What a name of the system stands for. -/
inductive Entry where
  | directory
  | link (target : SystemPath)
  | workingDirectory
  | threadDirectory
  | text (contents : String)
  | executable
  | device (d : Device)
  deriving Repr, DecidableEq

def workingDirectoryParent : SystemPath := ["tmp"]

def threadDirectoryParent : SystemPath := ["proc", "self", "task"]

/-- The first bytes of an executable: the ELF identification and header fields, which hold
bytes that are not UTF-8. -/
def executableImage : ByteArray :=
  ⟨#[0x7F, 0x45, 0x4C, 0x46, 0x02, 0x01, 0x01, 0x00, 0x00, 0x00, 0x00, 0x00, 0x00, 0x00, 0x00,
     0x00, 0x03, 0x00, 0x3E, 0x00, 0x01, 0x00, 0x00, 0x00, 0xC0, 0x5E, 0x00, 0x00]⟩

/-- The entries of the directory of the running thread, by their parts below it. -/
def threadEntry : List String → Option Entry
  | [] => some .directory
  | ["cwd"] => some .workingDirectory
  | ["root"] => some (.link [])
  | ["exe"] => some .executable
  | ["fd"] => some .directory
  | ["fd", "0"] => some (.device .stdin)
  | ["fdinfo"] => some .directory
  | ["fdinfo", n] =>
    if n = "0" ∨ n = "1" ∨ n = "2" then some (.text "pos:\t0\nflags:\t02\nmnt_id:\t0\n") else none
  | ["status"] => some (.text "Name:\tmathwgsl\nState:\tR (running)\n")
  | ["comm"] => some (.text "mathwgsl\n")
  | ["cmdline"] => some (.text "mathwgsl\x00")
  | ["limits"] => some (.text "Limit                     Soft Limit           Hard Limit\n")
  | ["mounts"] => some (.text "overlay / overlay rw 0 0\n")
  | ["io"] => some (.text "rchar: 0\nwchar: 0\n")
  | _ => none

/-- The entries of the directory of the running process: those of its thread, and `task`,
which holds the thread's directory under a name no path can give. -/
def processEntry : List String → Option Entry
  | ["task"] => some .directory
  | "task" :: _ => none
  | rest => threadEntry rest

def standardEntries : List (SystemPath × Entry) :=
  [(["bin"], .link ["usr", "bin"]), (["boot"], .directory), (["dev"], .directory),
   (["etc"], .directory), (["home"], .directory), (["lib"], .link ["usr", "lib"]),
   (["lib64"], .link ["usr", "lib64"]), (["media"], .directory), (["mnt"], .directory),
   (["opt"], .directory), (["proc"], .directory), (["root"], .directory), (["run"], .directory),
   (["sbin"], .link ["usr", "sbin"]), (["srv"], .directory), (["sys"], .directory),
   (["tmp"], .directory), (["usr"], .directory), (["var"], .directory),
   (["dev", "fd"], .link ["proc", "self", "fd"]), (["dev", "null"], .device .null),
   (["dev", "pts"], .directory), (["dev", "shm"], .directory),
   (["dev", "stdin"], .device .stdin), (["dev", "tty"], .device .terminal),
   (["etc", "group"], .text "root:x:0:\n"), (["etc", "hosts"], .text "127.0.0.1\tlocalhost\n"),
   (["etc", "os-release"], .text "PRETTY_NAME=\"Linux\"\n"),
   (["etc", "passwd"], .text "root:x:0:0:root:/root:/bin/sh\n"),
   (["etc", "shells"], .text "# /etc/shells: valid login shells\n/bin/sh\n"),
   (["proc", "1"], .directory), (["proc", "thread-self"], .threadDirectory),
   (["proc", "cpuinfo"], .text "processor\t: 0\n"),
   (["proc", "filesystems"], .text "nodev\tsysfs\n"),
   (["proc", "meminfo"], .text "MemTotal:       0 kB\n"),
   (["proc", "mounts"], .text "overlay / overlay rw 0 0\n"),
   (["proc", "version"], .text "Linux version\n"),
   (["usr", "bin"], .directory), (["usr", "include"], .directory), (["usr", "lib"], .directory),
   (["usr", "lib64"], .directory), (["usr", "local"], .directory), (["usr", "sbin"], .directory),
   (["usr", "share"], .directory), (["usr", "local", "bin"], .directory),
   (["usr", "local", "lib"], .directory),
   (["usr", "lib", "os-release"], .text "PRETTY_NAME=\"Linux\"\n"),
   (["var", "cache"], .directory), (["var", "lib"], .directory), (["var", "log"], .directory),
   (["var", "tmp"], .directory)] ++
  (["bash", "cat", "cp", "dash", "date", "echo", "env", "false", "grep", "head", "id", "ln", "ls",
    "mkdir", "mv", "rm", "sed", "sh", "sleep", "sort", "tail", "touch", "true", "uname",
    "wc"].map fun name => (["usr", "bin", name], Entry.executable))

/-- What a path of the system names, with the program's installation given as entries. -/
def systemEntry (installation : List (SystemPath × Entry)) (p : SystemPath) : Option Entry :=
  match installation.lookup p with
  | some e => some e
  | none =>
    if installation.any fun (q, _) => p.isPrefixOf q then some .directory
    else
      match p with
      | "proc" :: "self" :: rest => processEntry rest
      | _ => standardEntries.lookup p

end Cli

end FormulaShader

import FlashImage.Files.Operation

/-!
What is there before any program has run: the directories of the system, some of its files, and the
null device.
-/

set_option autoImplicit false
set_option relaxedAutoImplicit false

namespace FlashImage.Files

def systemDirectories : List String :=
  ["/bin", "/boot", "/dev", "/etc", "/home", "/lib", "/lib64", "/media", "/mnt", "/opt", "/proc",
    "/root", "/run", "/sbin", "/srv", "/sys", "/tmp", "/usr", "/usr/bin", "/usr/games",
    "/usr/include", "/usr/lib", "/usr/lib64", "/usr/libexec", "/usr/local", "/usr/local/bin",
    "/usr/local/etc", "/usr/local/lib", "/usr/local/sbin", "/usr/local/share", "/usr/sbin",
    "/usr/share", "/usr/src", "/var", "/var/cache", "/var/lib", "/var/log", "/var/tmp"]

def nullDevice : Location := ["dev", "null"]

def systemTexts : List (Location × String) :=
  [(["etc", "passwd"], "root:x:0:0:root:/root:/bin/bash\n"), (["etc", "group"], "root:x:0:\n"),
    (["etc", "hosts"], "127.0.0.1\tlocalhost\n"), (["etc", "hostname"], "localhost\n")]

def system (current : Location) : Files :=
  let empty : Files := { entries := [], current }
  let fs := systemDirectories.foldl (fun fs path => (fs.makeDirectories path).2) empty
  let fs := systemTexts.foldl (fun fs (l, s) => fs.put l (.file (Bytes.ofText s))) fs
  fs.put nullDevice .null

end FlashImage.Files

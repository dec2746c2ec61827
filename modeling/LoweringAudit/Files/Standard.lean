import LoweringAudit.Files.Tree
/-!
What every tree holds besides the files that someone put there: the usual directories below the root
and the devices.
-/
namespace LoweringAudit.FileTree

def standardDirectories : List Location :=
  [["bin"], ["boot"], ["dev"], ["dev", "fd"], ["etc"], ["home"], ["lib"], ["media"], ["mnt"],
    ["opt"], ["proc"], ["root"], ["run"], ["sbin"], ["srv"], ["sys"], ["tmp"], ["usr"],
    ["usr", "bin"], ["usr", "lib"], ["usr", "local"], ["usr", "local", "bin"],
    ["usr", "local", "sbin"], ["usr", "sbin"], ["usr", "share"], ["var"], ["var", "tmp"]]

def standardDevices : List (Location × Device) :=
  [(["dev", "null"], .void), (["dev", "full"], .full), (["dev", "tty"], .terminal),
    (["dev", "stdin"], .descriptor 0), (["dev", "stdout"], .descriptor 1),
    (["dev", "stderr"], .descriptor 2), (["dev", "fd", "0"], .descriptor 0),
    (["dev", "fd", "1"], .descriptor 1), (["dev", "fd", "2"], .descriptor 2)]

def putDevices (t : FileTree) (devices : List (Location × Device)) : FileTree :=
  devices.foldl (fun t (loc, d) => t.put loc (.device d)) t

/-- The tree with what every tree holds. -/
def furnished (t : FileTree) : FileTree :=
  (standardDirectories.foldl addDirectory t).putDevices standardDevices

theorem get?_put_of_ne (t : FileTree) (e : Entry) {loc other : Location} (h : other ≠ loc) :
    (t.put loc e).get? other = t.get? other := by
  have h : (other == loc) = false := by simpa using h
  rw [get?, get?, put, List.lookup_cons, h]

end LoweringAudit.FileTree

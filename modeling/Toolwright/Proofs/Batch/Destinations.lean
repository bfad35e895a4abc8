import Toolwright.Proofs.Batch.Run

/-!
# Where modules are written

The module of a specification is written to a file that is named after its service, and the service after
the file of the specification: in small letters, without its extension and without what
cannot be in a name. Two specifications of one directory may so be of one service. Both are then reported
as generated, at one path; the file there holds the module of the later one (`Ran.read_of_last`), and
the manifest names it once. That every module is kept is the same as that no two services are
alike (`kept_iff_nodup_services`).
-/

namespace Toolwright.Batch

open FilePath (join)

variable {options : BatchOptions} {tree ready : FileTree} {output : Place} {paths : List String}

end Toolwright.Batch

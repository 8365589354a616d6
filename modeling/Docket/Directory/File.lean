import Docket.Directory
import Docket.Json.Shape

/-!
# Directories in files

A file lists the roles and the users of a directory.  Its texts are read as values of a shape, so
what it says beyond the known fields does not matter.
-/

namespace Docket

def Role.shape : Json.Shape :=
  .record [("id", .text), ("name", .text), ("slug", .text)] ["id", "name", "slug"]

def User.shape : Json.Shape :=
  .record
    [("id", .text), ("name", .text), ("email", .optional .text), ("phone", .optional .text),
      ("name_ids", .list .text), ("roles", .list .text), ("is_active", .flag), ("deleted", .flag)]
    ["id", "name"]

namespace Directory

def shape : Json.Shape := .record [("roles", .list Role.shape), ("users", .list User.shape)] []

def readFile? (text : String) : Option Directory := (shape.whole? text).bind decode

end Directory
end Docket

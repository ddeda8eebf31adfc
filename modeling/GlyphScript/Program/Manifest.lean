import GlyphScript.Json.Writer
import GlyphScript.Program.Basic

/-!
# The manifest in a declaration

A declaration of one of two names that binds a dict describes the program. Most
fields have a short and a long key; the short one wins.
-/

namespace GlyphScript.Manifest

def declarationNames : List String :=
  ["manifest_ast", "manifest"]

/-- The text of the first key that is present. -/
def textOf (raw : Dict) (keys : List String) : String :=
  ((keys.findSome? raw.find?).map Value.toText).getD ""

def sectionOf (raw : Dict) (key : String) : Dict :=
  ((raw.find? key).bind Value.dict?).getD []

/-- The texts of the first key that holds a list. -/
def textsOf (raw : Dict) (keys : List String) : List String :=
  ((keys.findSome? fun key => (raw.find? key).bind Value.list?).getD []).map Value.toText

def ofDict (raw : Dict) : Manifest where
  name := textOf raw ["n", "name"]
  version := textOf raw ["v", "version"]
  law := textOf raw ["atomic_law", "law"]
  capabilities := textsOf raw ["packs", "capabilities"]
  tapes := sectionOf raw "tapes"
  folds := sectionOf raw "kuhul_folds"
  restMesh := sectionOf raw "rest_mesh"
  siteContent := sectionOf raw "site_content"
  raw := raw

def ofDeclaration? (declaration : Binding) : Option Manifest :=
  if declarationNames.contains declaration.name then declaration.value.dict?.map ofDict else none

end GlyphScript.Manifest

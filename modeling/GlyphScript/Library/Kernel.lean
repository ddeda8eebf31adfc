import GlyphScript.Library.Answer

/-!
# Booting

Booting writes a group of steps to the boot log. With a manifest it also counts
the boot and registers the tapes of the manifest. A registered tape can be made
the active one.
-/

namespace GlyphScript.Library

def kernelId : String := "kuhul-rs 0.1.0"

def logStep (step : String) (store : Store) : Store :=
  { store with bootSteps := store.bootSteps ++ [step] }

def bootCount (store : Store) : Float :=
  ((store.memory.find? "os.boot.count").map Value.toNumber).getD 0

/-- Counts the boot, if there is a manifest. -/
def countBoot (store : Store) : Store :=
  if store.manifest = [] then store
  else
    logStep "manifest_loaded"
      (((store.remember "os.boot.count" (.number (bootCount store + 1))).remember
        "os.state" (.text "booting")).remember "os.kernel" (.text kernelId))

/-- Registers the tapes of the manifest, if it lists any. -/
def registerTapes (store : Store) : Store :=
  match store.manifest.find? "tapes" with
  | some (.dict tapes) =>
      logStep "tapes_registered" { store with tapes := store.tapes.extend tapes }
  | _ => store

def manifestName (store : Store) : String :=
  (((store.manifest.find? "n").or (store.manifest.find? "name")).map Value.toText).getD ""

/-- The store after a boot. -/
def booted (store : Store) : Store :=
  let prepared := registerTapes (countBoot (logStep "kernel_boot_start" store))
  logStep "kernel_boot_complete"
    ({ prepared with booted := true }.remember "os.state" (.text "active"))

def bootKernel (store : Store) : Value × Store :=
  let after := booted store
  (success [("status", .text "booted"), ("boot_count", .number (bootCount after)),
    ("boot_steps", .ofTexts after.bootSteps), ("manifest", .text (manifestName after))], after)

def bootTape (id : String) (store : Store) : Value × Store :=
  match store.tapes.find? id with
  | some tape =>
      (success [("message", .text ("Tape " ++ id ++ " booted")), ("tape_id", .text id),
        ("tape", tape)],
        (store.remember "os.active_tape" (.text id)).remember "tapes.active_id" (.text id))
  | none => (refusal "Tape not found" [("tape_id", .text id)], store)

end GlyphScript.Library

import FlashImage.Shell.Utility.Entry

/-!
The program that puts files in place with permissions of their own.
-/

set_option autoImplicit false
set_option relaxedAutoImplicit false

namespace FlashImage.Shell

def setModeOf (path : String) (asked : Nat ⊕ List PermissionChange) : Program Unit := do
  match ← entryOf path with
  | .ok (l, e) => changeWorld fun w => w.setMode l (newMode asked (e == .directory) 0)
  | .error _ => return ()

def installFile (g : Given) (asked : Nat ⊕ List PermissionChange) (source dest : String) :
    Program Unit := do
  if g.has 'D' then makeWithParents ⟨[], []⟩ (directoryName dest)
  match ← entryOf source with
  | .error fault =>
    Program.object ("cannot stat " ++ shownPath source ++ ": " ++ faultWording fault)
  | .ok (_, .directory) => Program.object ("omitting directory " ++ shownPath source)
  | .ok (from1, entry) =>
    let content := match entry with
      | .file b => b
      | _ => []
    let failures := (← get).status
    match ← entryItself dest with
    | .ok (_, .directory) => pure ()
    | .ok (to1, _) => if to1 ≠ from1 then changeWorld fun w => w.removeAll to1
    | _ => pure ()
    copyFile source dest from1 content
    if failures = (← get).status then
      setModeOf dest asked
      tellChange g (shownPath source ++ " -> " ++ shownPath dest)

def installPaths (arguments : List String) : Program Unit := do
  let g ← givenTo (flags "bcCdDpsTv" ++ settings "gmoSt" ++ [⟨'m', "mode", true⟩,
    ⟨'d', "directory", false⟩, ⟨'t', "target-directory", true⟩, ⟨'v', "verbose", false⟩,
    ⟨'o', "owner", true⟩, ⟨'g', "group", true⟩, ⟨'T', "no-target-directory", false⟩]) arguments
  let asked ← match g.value? 'm' with
    | none => pure (.inl World.programMode)
    | some mode =>
      match readMode? mode with
      | some asked => pure asked
      | none => Program.refuse ("invalid mode " ++ shownPath mode)
  if g.has 'd' then
    if g.operands.isEmpty then Program.refuseUsage 1 "missing file operand"
    g.operands.forM fun path => do
      makeWithParents g path
      setModeOf path asked
  else
    let (sources, dest) ← destinationOf g "missing file operand"
    sources.forM fun source => installFile g asked source (dest.pathFor source)

end FlashImage.Shell

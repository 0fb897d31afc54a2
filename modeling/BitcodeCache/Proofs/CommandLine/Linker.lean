import BitcodeCache.Proofs.Lookup
import BitcodeCache.Proofs.Settings.Signature

/-!
# The signature tells the options of the linker

The options of the linker are written from settings that all enter the signature, and of the renamed
symbols from the map that enters it. So projects with one signature have the same options, whatever
lists of symbols their maps were made from.
-/

namespace BitcodeCache

/-- The same builds have the same options of the linker. -/
theorem SameBuild.options_eq {s s' : Settings} (same : SameBuild s s') :
    s.linker.options = s'.linker.options := by
  rw [LinkerSettings.options, LinkerSettings.options, same.shared, same.bsymbolic, same.soname,
    same.dyld, same.sysroot_eq, same.searchDirs_eq, same.z, same.ofLinker_eq]

namespace CommandLine

/-- Asked for the options of the linker, the tool prints those of the project that it loads. -/
theorem finish_linker {disk : Disk} {options : Options} {project : Project} {file : Path}
    (loaded : (Project.load disk.access options.config).run = .ok (project, file)) :
    (finish disk.access ⟨options, .linker⟩).run =
      { exit := 0, output := project.settings.linker.optionText,
        errors := logText options
          ([.loadedConfiguration file] ++ RenameMap.warnings project.settings.linker) } := by
  refine finish_of_ok ?_
  rw [perform, printLinker, Run.run_loadProject_bind loaded]
  rfl

/-- The command prints the options of the project's linker settings, one to a line. -/
theorem run_linker {disk : Disk} {arguments : List String} {options : Options} {project : Project}
    {file : Path} (asked : parse arguments = .ok ⟨options, .linker⟩)
    (loaded : (Project.load disk.access options.config).run = .ok (project, file)) :
    (run disk.access arguments).run =
      { exit := 0, output := project.settings.linker.optionText,
        errors := logText options
          ([.loadedConfiguration file] ++ RenameMap.warnings project.settings.linker) } := by
  rw [run, asked]
  exact finish_linker loaded

/-- Where digests do not collide, settings with one signature have the same options of the linker, line
by line. So the tool, asked for them in two projects with these settings, succeeds and prints the same
text; only what is logged on the way can differ. -/
theorem linker_told_by_signature {s s' : Settings} {signature : Signature}
    (collision : Digest.ofSource (Text.utf8 s.canonicalText) =
      Digest.ofSource (Text.utf8 s'.canonicalText) → s.canonicalText = s'.canonicalText)
    (built : s.signature = .ok signature) (built' : s'.signature = .ok signature) :
    s.linker.options = s'.linker.options ∧
    ∀ (disk disk' : Disk) (arguments arguments' : List String) (options options' : Options)
      (root root' file file' : Path),
      parse arguments = .ok ⟨options, .linker⟩ → parse arguments' = .ok ⟨options', .linker⟩ →
      (Project.load disk.access options.config).run = .ok (⟨root, s⟩, file) →
      (Project.load disk'.access options'.config).run = .ok (⟨root', s'⟩, file') →
      let printed := (run disk.access arguments).run
      let printed' := (run disk'.access arguments').run
      printed.exit = 0 ∧ printed'.exit = 0 ∧ printed.output = printed'.output ∧
        printed.output = String.join (s.linker.options.map (· ++ "\n")) := by
  have same := (Settings.sameBuild_of_signature collision built built').options_eq
  refine ⟨same, ?_⟩
  intro disk disk' arguments arguments' options options' root root' file file' asked asked' loaded
    loaded' printed printed'
  have ran : printed = _ := run_linker asked loaded
  have ran' : printed' = _ := run_linker asked' loaded'
  rw [ran, ran']
  refine ⟨rfl, rfl, ?_, rfl⟩
  rw [LinkerSettings.optionText, LinkerSettings.optionText, same]

namespace SharedSignature

/-- A settings file that wraps a symbol of which there is a portable version, too. -/
def wrappedText : String :=
  "[toolchain]\ntriple = \"arm\"\ncompiler_version = \"3\"\n" ++
    "[linker]\nwrap = [\"f\"]\nportable = [\"f\"]\n"

/-- A settings file for another cache that names the portable symbol twice, and a switch as it is
anyway. -/
def portableText : String :=
  "cache.dir = \"c\"\n[toolchain]\ntriple = \"arm\"\ncompiler_version = \"3\"\n" ++
    "[linker]\nportable = [\"f\", \"f\"]\nz.lazy = true\n"

def wrapped : Settings where
  toolchain := { compilerVersion := "3", triple := "arm" }
  linker := { wrap := ["f"], portable := ["f"] }

def portable : Settings where
  cache := { dir := ⟨"c"⟩ }
  toolchain := { compilerVersion := "3", triple := "arm" }
  linker := { portable := ["f", "f"] }

/-- A disk with both files. -/
def disk : Disk where
  nodes := [(["a.toml"], .file (Text.utf8 wrappedText) .epoch),
    (["b.toml"], .file (Text.utf8 portableText) .epoch)]

end SharedSignature

open SharedSignature in
theorem linker_told_by_signature_wrapped :
    wrapped.canonicalText = portable.canonicalText ∧ wrapped.signature = portable.signature ∧
      (Project.load disk.access (some "a.toml")).run = .ok (⟨⟨""⟩, wrapped⟩, ⟨"a.toml"⟩) ∧
      (Project.load disk.access (some "b.toml")).run = .ok (⟨⟨""⟩, portable⟩, ⟨"b.toml"⟩) ∧
      (run disk.access ["--config", "a.toml", "linker"]).run.output =
        "-z combreloc\n-z noexecstack\n-z relro\n-z lazy\n" ++
          "--defsym=__real_f=f\n--defsym=f=f_portable\n" ∧
      (run disk.access ["--config", "a.toml", "linker"]).run.output =
        (run disk.access ["--config", "b.toml", "linker"]).run.output := by
  have texts : wrapped.canonicalText = portable.canonicalText := by decide +kernel
  have same : wrapped.signature = portable.signature :=
    Settings.signature_eq_of_sameBuild (Settings.canonicalText_eq_iff.1 texts)
  have built : wrapped.signature = .ok ⟨Text.utf8 wrapped.signatureText⟩ :=
    Settings.signature_eq_ok_iff.2 ⟨rfl, by decide +kernel⟩
  have loaded : (Project.load disk.access (some "a.toml")).run =
      .ok (⟨⟨""⟩, wrapped⟩, ⟨"a.toml"⟩) := by decide +kernel
  have loaded' : (Project.load disk.access (some "b.toml")).run =
      .ok (⟨⟨""⟩, portable⟩, ⟨"b.toml"⟩) := by decide +kernel
  have asked : parse ["--config", "a.toml", "linker"] =
      .ok ⟨{ config := some "a.toml" }, .linker⟩ := by decide +kernel
  have asked' : parse ["--config", "b.toml", "linker"] =
      .ok ⟨{ config := some "b.toml" }, .linker⟩ := by decide +kernel
  have printed := (linker_told_by_signature (fun _ => texts) built (same ▸ built)).2
    _ _ _ _ _ _ _ _ _ _ asked asked' loaded loaded'
  exact ⟨texts, same, loaded, loaded', printed.2.2.2.trans (by decide +kernel), printed.2.2.1⟩

end CommandLine

end BitcodeCache

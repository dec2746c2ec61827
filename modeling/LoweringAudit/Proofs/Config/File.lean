import LoweringAudit.Config.File
import LoweringAudit.Proofs.Config.RoundTrip
import LoweringAudit.Proofs.Files.Tree
import LoweringAudit.Proofs.Text.Utf8
/-!
Configuration files. Main statement: a configuration that was saved to a path is loaded from it with
every field as it was, and with the parent of the path for its directory. Its catalog is then the
one built in, or the file that the source names, seen from that directory.
-/
namespace LoweringAudit.Config

/-- A file is loaded when it can be read and is a configuration, and its directory is remembered. -/
theorem load_eq_ok_iff (files : Files) (path : String) (c : Config) :
    load files path = .ok c ↔ ∃ text held, files.readText path = .ok text ∧
      parse? text = some held ∧ c = { held with baseDir := Path.parent? path } := by
  unfold load
  split
  · next hread => simp [hread]
  · next hread => simp [hread]
  · next text hread =>
    cases hparse : parse? text with
    | none => simp [hread, hparse]
    | some held => simp [hread, hparse, eq_comm]

/-- The text is at fault when it can be read and is no configuration. -/
theorem load_eq_malformed_iff (files : Files) (path : String) :
    load files path = .error .malformed ↔
      ∃ text, files.readText path = .ok text ∧ parse? text = none := by
  unfold load
  split
  · next hread => simp [hread]
  · next hread => simp [hread]
  · next text hread => cases hparse : parse? text <;> simp [hread, hparse]

/-- Whatever else the files are: where a path holds the text of a configuration, it is loaded. -/
theorem load_of_read (c : Config) (files : Files) {path : String}
    (h : files.read path = .ok (Utf8.encode c.render.toList)) :
    load files path = .ok { c with baseDir := Path.parent? path } := by
  have htext : files.readText path = .ok c.render := by
    simp [Files.readText, h]
  simp [load, htext, parse?_render]

theorem catalogSource_of_baseDir (c : Config) (dir : String) :
    ({ c with baseDir := some dir } : Config).catalogSource =
      if Text.sameLetters CatalogSource.word.toList c.catalog.source.toList then .embedded
      else if Path.isAbsolute c.catalog.source then .file c.catalog.source
      else .file (Path.join dir c.catalog.source) := by
  unfold catalogSource CatalogSource.ofWord
  by_cases hword : Text.sameLetters CatalogSource.word.toList c.catalog.source.toList = true
  · simp [hword]
  by_cases habsolute : Path.isAbsolute c.catalog.source = true
  · simp [hword, habsolute, Path.join]
  · simp [hword, habsolute]

/-- Saving fails only where the file system refuses the file. What was saved is loaded again, unless
the path is that of a device, which keeps nothing. -/
theorem load_save (c : Config) (tree : FileTree) (path : String) :
    (∀ e, c.save tree path = .error e ↔
      ∃ cause, tree.write path (Utf8.encode c.render.toList) = .error cause ∧
        e = .unreadable cause) ∧
    ∀ saved, c.save tree path = .ok saved →
      (∃ loc d, tree.resolve path = .ok loc ∧ tree.get? loc = some (.device d)) ∧ saved = tree ∨
      ∃ dir, Path.parent? path = some dir ∧
        load saved.files path = .ok { c with baseDir := some dir } ∧
        ({ c with baseDir := some dir } : Config).catalogSource =
          if Text.sameLetters CatalogSource.word.toList c.catalog.source.toList then .embedded
          else if Path.isAbsolute c.catalog.source then .file c.catalog.source
          else .file (Path.join dir c.catalog.source) := by
  refine ⟨fun e => ?_, fun saved h => ?_⟩
  · unfold save
    split
    · next hwrite => simp [hwrite]
    · next cause hwrite => simp [hwrite, eq_comm]
  · have hwrite : tree.write path (Utf8.encode c.render.toList) = .ok saved := by
      unfold save at h
      split at h
      · next hwrite => cases h; exact hwrite
      · cases h
    rcases FileTree.read_of_write hwrite with ⟨hread, -⟩ | hdevice
    · obtain ⟨above, name, htarget, -⟩ := FileTree.write_eq_ok hwrite
      obtain ⟨dir, hdir⟩ := htarget.exists_parent?
      have hload := load_of_read c saved.files hread
      rw [hdir] at hload
      exact .inr ⟨dir, hdir, hload, catalogSource_of_baseDir c dir⟩
    · exact .inl hdevice

/-- A configuration with quotes, backslashes and line ends of both kinds in its texts. -/
def awkward : Config where
  target :=
    { features := ["a\"b", "'''\n\"\"\"", ""]
      defaultFeature := "\t\r\n"
      targetPrefix := "\\" }
  catalog := { source := "lists/case.txt" }
  engine := { program := some "\x00'" }

theorem load_save_awkward :
    ∃ saved, awkward.save (.ofWorkingDirectory ["work"]) "./lowercheck.toml" = .ok saved ∧
      load saved.files "./lowercheck.toml" = .ok { awkward with baseDir := some "." } := by
  have hwrite : ∀ octets, (FileTree.ofWorkingDirectory ["work"]).write "./lowercheck.toml" octets =
      .ok ((FileTree.ofWorkingDirectory ["work"]).put ["work", "lowercheck.toml"] (.file octets)) :=
    fun _ => rfl
  have hresolve : (FileTree.ofWorkingDirectory ["work"]).resolve "./lowercheck.toml" =
      .error .notFound := rfl
  have hparent : Path.parent? "./lowercheck.toml" = some "." := by decide
  obtain ⟨saved, hsave⟩ : ∃ saved,
      awkward.save (.ofWorkingDirectory ["work"]) "./lowercheck.toml" = .ok saved :=
    ⟨_, by rw [save, hwrite]⟩
  refine ⟨saved, hsave, ?_⟩
  rcases (load_save awkward (.ofWorkingDirectory ["work"]) "./lowercheck.toml").2 saved hsave with
    ⟨⟨loc, d, hdevice, -⟩, -⟩ | ⟨dir, hdir, hload, -⟩
  · rw [hresolve] at hdevice
    cases hdevice
  · rw [hparent] at hdir
    cases hdir
    exact hload

end LoweringAudit.Config

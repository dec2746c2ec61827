import LoweringAudit.Proofs.Config.File
import LoweringAudit.Proofs.Files.Ancestors
/-!
The configuration that counts for a directory. It is looked for in the directory and in what is left
when steps are dropped from its path; the longest of these paths that has a regular file of the
usual name decides, whatever that file holds. Main statement: what is found is what loading that
file gives, and the same is found from every directory beneath with no such file on the way.
-/
namespace LoweringAudit.Config

variable {files : Files} {d dir start below : String} {c : Config}

/-- The longest of the paths that enclose the start and have a regular file of the usual name. -/
structure Nearest (files : Files) (start d : String) : Prop where
  encloses : Path.Encloses d start
  isFile : files.isFile (Path.join d fileName) = true
  longest : ∀ q, Path.Encloses q start → files.isFile (Path.join q fileName) = true →
    q.length ≤ d.length

theorem isStep_fileName : Path.IsStep fileName.toList := by
  decide

theorem plain_fileName : Path.Plain fileName := by
  decide

theorem nearest_iff (hplain : Path.Plain start) :
    Nearest files start d ↔
      (Path.ancestors start).find? (fun q => files.isFile (Path.join q fileName)) = some d := by
  rw [Path.find?_ancestors_eq_some_iff hplain]
  exact ⟨fun h => ⟨h.encloses, h.isFile, h.longest⟩, fun ⟨h, h', h''⟩ => ⟨h, h', h''⟩⟩

theorem find?_eq (files : Files) (start : String) :
    find? files start =
      ((Path.ancestors start).find? fun q => files.isFile (Path.join q fileName)).map
        (Path.join · fileName) :=
  List.find?_map

theorem Nearest.findAndLoad (h : Nearest files start d) (hplain : Path.Plain start) :
    (findAndLoad files start).1 = load files (Path.join d fileName) := by
  have hfind : find? files start = some (Path.join d fileName) := by
    rw [find?_eq, (nearest_iff hplain).1 h, Option.map_some]
  simp [Config.findAndLoad, hfind]

theorem findAndLoad_of_not_nearest (h : ∀ d, ¬ Nearest files start d)
    (hplain : Path.Plain start) : (findAndLoad files start).1 = .ok {} := by
  have hfind : find? files start = none := by
    rw [find?_eq, Option.map_eq_none_iff, Option.eq_none_iff_forall_ne_some]
    exact fun d hd => h d ((nearest_iff hplain).2 hd)
  simp [Config.findAndLoad, hfind]

/-- What is nearest to a directory is nearest to one beneath it, if nothing is nearer to that. -/
theorem Nearest.of_encloses (h : Nearest files start d) (hplain : Path.Plain below)
    (hbelow : Path.Encloses d below)
    (hnone : ∀ q, Path.Encloses q below → Path.Encloses d q → q ≠ d →
      files.isFile (Path.join q fileName) = false) : Nearest files below d where
  encloses := hbelow
  isFile := h.isFile
  longest q hq hfile := by
    by_contra hlonger
    have hd : Path.Encloses d q := hbelow.of_length_le hq hplain (Nat.le_of_not_le hlonger)
    have hne : q ≠ d := by
      rintro rfl
      exact hlonger le_rfl
    rw [hnone q hq hd hne] at hfile
    cases hfile

/-- The directory that a configuration remembers is the one that its file was found in. -/
theorem exists_parent?_join (hplain : Path.Plain d) :
    ∃ dir, Path.parent? (Path.join d fileName) = some dir ∧ Path.Same dir d ∧
      (Path.Trimmed d → dir = d) := by
  obtain ⟨dir, hdrops, hsame, htrimmed⟩ := Path.exists_drops_join d isStep_fileName
  have hjoin : Path.Plain (Path.join d fileName) :=
    Path.plain_join hplain plain_fileName (Path.isAbsolute_eq_false isStep_fileName)
  exact ⟨dir, hdrops.parent? hjoin, hsame, htrimmed⟩

/-- Where there is a nearest file, only that one counts. The configuration is what can be read from
it, and an error if that is none; it remembers the directory of the file, and a relative path to a
catalog is seen from there. The same is found from every directory beneath with no such file on the
way. Without a nearest file the defaults hold, and no directory is remembered. -/
theorem findAndLoad_nearest (files : Files) (start : String) (hplain : Path.Plain start) :
    (∀ d, Nearest files start d →
      (findAndLoad files start).1 = load files (Path.join d fileName) ∧
      (∃ dir, Path.Same dir d ∧ (Path.Trimmed d → dir = d) ∧
        ∀ c, ((findAndLoad files start).1 = .ok c ↔
            ∃ text held, files.readText (Path.join d fileName) = .ok text ∧
              parse? text = some held ∧ c = { held with baseDir := some dir }) ∧
          ((findAndLoad files start).1 = .ok c →
            c.catalogSource =
                (if Text.sameLetters CatalogSource.word.toList c.catalog.source.toList then
                  .embedded
                else if Path.isAbsolute c.catalog.source then .file c.catalog.source
                else .file (Path.join dir c.catalog.source)) ∧
              Path.Same (Path.join dir c.catalog.source) (Path.join d c.catalog.source))) ∧
      ∀ below, Path.Plain below → Path.Encloses d below →
        (∀ q, Path.Encloses q below → Path.Encloses d q → q ≠ d →
          files.isFile (Path.join q fileName) = false) →
        (findAndLoad files below).1 = (findAndLoad files start).1) ∧
    ((∀ d, ¬ Nearest files start d) →
      (findAndLoad files start).1 = .ok { baseDir := none }) := by
  refine ⟨fun d hd => ?_, fun hnone => findAndLoad_of_not_nearest hnone hplain⟩
  have hload := hd.findAndLoad hplain
  refine ⟨hload, ?_, fun below hbelow hencloses hnone => ?_⟩
  · obtain ⟨dir, hparent, hsame, htrimmed⟩ := exists_parent?_join (hd.encloses.plain hplain)
    refine ⟨dir, hsame, htrimmed, fun c => ?_⟩
    have hok := load_eq_ok_iff files (Path.join d fileName) c
    rw [← hload, hparent] at hok
    refine ⟨hok, fun hc => ?_⟩
    obtain ⟨text, held, -, -, rfl⟩ := hok.1 hc
    exact ⟨catalogSource_of_baseDir held dir, hsame.join held.catalog.source⟩
  · rw [(hd.of_encloses hbelow hencloses hnone).findAndLoad hbelow, hload]

/-- A tree with a configuration, a file of that name above it that is none, and a directory of that
name beneath it. -/
def threeNames : FileTree :=
  (FileTree.ofWorkingDirectory ["work"]).addFile ["work", fileName] (Utf8.encode "=".toList)
    |>.addFile ["work", "a", fileName] (Utf8.encode "catalog.source = \"list\"".toList)
    |>.addDirectory ["work", "a", "b", fileName]

theorem findAndLoad_nearest_threeNames :
    Path.Plain "a/b//c" ∧ Nearest threeNames.files "a" "a" ∧
      (findAndLoad threeNames.files "a/b//c").1 = (findAndLoad threeNames.files "a").1 ∧
      (findAndLoad threeNames.files "a").1 =
        .ok { catalog := { source := "list" }, baseDir := some "a" } ∧
      Nearest threeNames.files "" "" ∧
      (findAndLoad threeNames.files "").1 = .error .malformed := by
  have hbelow : Path.Plain "a/b//c" := by decide
  have hstart : Path.Plain "a" := by decide
  have hroot : Path.Plain "" := by decide
  have hnear : Nearest threeNames.files "a" "a" :=
    (nearest_iff hstart).2 (by decide +kernel)
  have hbroken : Nearest threeNames.files "" "" :=
    (nearest_iff hroot).2 (by decide +kernel)
  have hnone : ∀ q ∈ Path.ancestors "a/b//c", q ≠ "a" → "a".length ≤ q.length →
      threeNames.files.isFile (Path.join q fileName) = false := by
    decide +kernel
  obtain ⟨hload, -, hsame⟩ := (findAndLoad_nearest threeNames.files "a" hstart).1 "a" hnear
  have hmalformed := ((findAndLoad_nearest threeNames.files "" hroot).1 "" hbroken).1
  refine ⟨hbelow, hnear, ?_, ?_, hbroken, ?_⟩
  · refine hsame "a/b//c" hbelow ((Path.mem_ancestors_iff hbelow).1 (by decide)) ?_
    exact fun q hq ha hne => hnone q ((Path.mem_ancestors_iff hbelow).2 hq) hne ha.length_le
  · rw [hload]
    decide +kernel
  · rw [hmalformed]
    decide +kernel

end LoweringAudit.Config

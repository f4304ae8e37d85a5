import Mathlib.Data.List.Basic
import ProgramRom.CommandLine.Workspace
import ProgramRom.Proofs.Failing

/-! # Files of a workspace

A path that can be written leads through no file but its own: all names before the last stay in the directory of
the workspace. So once a file is written, the path that wrote it reads it back. -/

namespace ProgramRom.CommandLine

namespace Workspace

/-! ### Ways along a path -/

theorem walk_cons (w : Workspace) (spot : Spot) (name : String) (names : List String) :
    w.walk spot (name :: names) = w.enter spot name >>= fun next => w.walk next names :=
  List.foldlM_cons

theorem walk_concat (w : Workspace) (spot : Spot) (names : List String) (name : String) :
    w.walk spot (names ++ [name]) = w.walk spot names >>= fun next => w.enter next name := by
  simp only [walk, List.foldlM_append, List.foldlM_cons, List.foldlM_nil, bind_pure]

theorem walk_file_ne_home (w : Workspace) (file : String) (names : List String) :
    w.walk (.file file) names ≠ .ok .home := by
  cases names with
  | nil => exact fun h => by cases h
  | cons name names => exact fun h => by cases h

/-- A step that does not reach a file looks at no file. -/
theorem enter_of_not_file {w : Workspace} {spot next : Spot} {name : String} (h : w.enter spot name = .ok next)
    (hnext : ∀ file, next ≠ .file file) (w' : Workspace) : w'.enter spot name = .ok next := by
  unfold enter at h ⊢
  split at h
  · exact h
  · exact h
  · exact h
  · exact h
  · obtain ⟨-, -, h⟩ := bind_eq_ok h
    split at h
    · cases h
      exact absurd rfl (hnext name)
    · cases h

theorem walk_home {w : Workspace} {spot : Spot} {names : List String} (h : w.walk spot names = .ok .home)
    (w' : Workspace) : w'.walk spot names = .ok .home := by
  induction names generalizing spot with
  | nil => exact h
  | cons name names ih =>
    rw [walk_cons] at h ⊢
    obtain ⟨next, henter, hwalk⟩ := bind_eq_ok h
    have hnext : ∀ file, next ≠ .file file := by
      rintro file rfl
      exact walk_file_ne_home w file names hwalk
    rw [enter_of_not_file henter hnext w']
    exact ih hwalk

/-! ### Targets -/

/-- A path that can be written ends in the name of its file, behind names that stay in the directory. -/
theorem target_eq_ok {w : Workspace} {text name : String} (h : w.target text = .ok name) :
    ∃ path, readPath text = .ok path ∧ path.names = path.names.dropLast ++ [name] ∧
      w.walk (start path) path.names.dropLast = .ok .home ∧ Path.isDots name = false ∧ path.slashed = false ∧
      checkName name = .ok () := by
  unfold target at h
  obtain ⟨path, hpath, h⟩ := bind_eq_ok h
  cases hlast : path.names.getLast? with
  | none => rw [hlast] at h; cases h
  | some last =>
    rw [hlast] at h
    obtain ⟨spot, hspot, h⟩ := bind_eq_ok h
    -- Only a way that ends in the directory goes on, and then with the last name unchanged.
    have hgoesOn : (if Path.isDots last || path.slashed then Except.error .isDirectory else do
        checkName last
        if spot = .home then .ok last else .error .notFound) = Except.ok (ε := FileError) name := by
      cases spot with
      | file file => cases h
      | home => exact h
      | outside => exact h
    split at hgoesOn
    · cases hgoesOn
    · rename_i hplain
      obtain ⟨⟨⟩, hcheck, hhome⟩ := bind_eq_ok hgoesOn
      split at hhome
      · rename_i hspotHome
        cases hhome
        subst hspotHome
        rw [Bool.or_eq_true, not_or, Bool.not_eq_true, Bool.not_eq_true] at hplain
        exact ⟨path, hpath, (List.dropLast_append_getLast? _ hlast).symm, hspot, hplain.1, hplain.2, hcheck⟩
      · cases hhome

theorem enter_home {w : Workspace} {name : String} (hdots : Path.isDots name = false) (hcheck : checkName name = .ok ())
    (hfound : (w.find? name).isSome = true) : w.enter .home name = .ok (.file name) := by
  unfold enter
  split
  · contradiction
  · simp [Path.isDots] at hdots
  · simp [Path.isDots] at hdots
  · contradiction
  · rw [hcheck]
    simp [bind, Except.bind, hfound]

theorem read_put_of_target {w : Workspace} {text name : String} (h : w.target text = .ok name) (content : ByteArray) :
    (w.put name content).read text = .ok content := by
  obtain ⟨path, hpath, hnames, hhome, hdots, hslashed, hcheck⟩ := target_eq_ok h
  have hfound := find?_put_self w name content
  have hwalk : (w.put name content).walk (start path) path.names = .ok (.file name) := by
    rw [hnames, walk_concat, walk_home hhome]
    exact enter_home hdots hcheck (by rw [hfound]; rfl)
  unfold read
  rw [hpath]
  show ((w.put name content).walk (start path) path.names >>= _) = _
  rw [hwalk]
  simp [bind, Except.bind, hslashed, hfound]

end Workspace

end ProgramRom.CommandLine

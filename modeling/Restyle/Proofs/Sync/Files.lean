import Restyle.Proofs.Sync.Blocks

/-!
# Files of themes

A write goes to the file of its key and leaves the other files alone.  After any number of writes
a file has what it had, merged with the patches that were written under the keys that share it,
one after another.  Keys share a file when they are the same once every unsafe character is
replaced, so keys without such characters share none.

* `Folder.file?`, `mergeInto` — a file, and what a write makes of it.
* `file?_write` — one write.
* `file?_writeAll` — many writes.
* `fileName_eq_iff` — the keys that share a file.
* `themes_apart` — what is loaded after writes to an empty folder.
-/

set_option autoImplicit false

namespace Restyle.Sync

open Restyle.Assoc Restyle.Document

variable {folder : Folder} {key k : String}

/-! ## One write -/

/-- The file of a key, if it was written. -/
def Folder.file? (folder : Folder) (key : String) : Option Theme :=
  get? folder.files (fileName key)

/-- A file after a patch was written to it. -/
def mergeInto (file : Option Theme) (patch : Theme) : Option Theme :=
  some (mergeFields (file.getD []) patch)

theorem load_eq (folder : Folder) (key : String) : folder.load key = (folder.file? key).getD [] :=
  rfl

/-- A write goes to one file. -/
theorem file?_write (folder : Folder) (k : String) (patch : Theme) (key : String) :
    (folder.write k patch).file? key =
      if fileName k = fileName key then mergeInto (folder.file? key) patch
      else folder.file? key := by
  rw [Folder.file?, Folder.write, get?_put]
  by_cases h : fileName k = fileName key
  · rw [if_pos h.symm, if_pos h, Folder.load, h]
    rfl
  · rw [if_neg (Ne.symm h), if_neg h]
    rfl

theorem load_write (folder : Folder) (key : String) (patch : Theme) :
    (folder.write key patch).load key = mergeFields (folder.load key) patch := by
  rw [load_eq, file?_write, if_pos rfl]
  rfl

/-! ## Many writes -/

/-- Writes one after another. -/
def Folder.writeAll (folder : Folder) (writes : List (String × Theme)) : Folder :=
  writes.foldl (fun folder write => folder.write write.1 write.2) folder

/-- The patches that are written under some keys, in order. -/
def patchesUnder (select : String → Bool) (writes : List (String × Theme)) : List Theme :=
  (writes.filter fun write => select write.1).map (·.2)

/-- **What a file has after writes**: the patches of the keys that share it are merged into it one
after another. -/
theorem file?_writeAll (folder : Folder) (writes : List (String × Theme)) (key : String) :
    (folder.writeAll writes).file? key =
      (patchesUnder (fileName · = fileName key) writes).foldl mergeInto (folder.file? key) := by
  induction writes generalizing folder with
  | nil => rfl
  | cons write rest ih =>
    have hrest := ih (folder.write write.1 write.2)
    rw [file?_write] at hrest
    refine Eq.trans hrest ?_
    by_cases h : fileName write.1 = fileName key
    · rw [if_pos h, patchesUnder, patchesUnder, List.filter_cons_of_pos (by simpa using h)]
      rfl
    · rw [if_neg h, patchesUnder, patchesUnder, List.filter_cons_of_neg (by simpa using h)]

/-- Merging into a file is merging, once something was written. -/
theorem foldl_mergeInto (patches : List Theme) (file : Option Theme) :
    patches.foldl mergeInto file =
      if patches = [] then file else some (patches.foldl mergeFields (file.getD [])) := by
  induction patches generalizing file with
  | nil => rfl
  | cons patch rest ih =>
    rw [List.foldl_cons, ih, if_neg (List.cons_ne_nil patch rest)]
    split
    · rename_i hrest
      rw [hrest]
      rfl
    · rfl

theorem getD_foldl_mergeInto (patches : List Theme) (file : Option Theme) :
    (patches.foldl mergeInto file).getD [] = patches.foldl mergeFields (file.getD []) := by
  rw [foldl_mergeInto]
  split
  · rename_i h
    rw [h]
    rfl
  · rfl

/-! ## Keys that share a file -/

/-- **Keys share a file** when they are the same once unsafe characters are replaced. -/
theorem fileName_eq_iff :
    fileName k = fileName key ↔ k.toList.map safeChar = key.toList.map safeChar := by
  constructor
  · intro h
    have hlist := congrArg String.toList h
    simpa [fileName] using hlist
  · intro h
    rw [fileName, fileName, h]

theorem map_safeChar (h : ∀ c ∈ key.toList, safeChar c = c) :
    key.toList.map safeChar = key.toList := by
  rw [List.map_congr_left h, List.map_id']

/-- Keys of safe characters have a file each. -/
theorem eq_of_fileName_eq (hk : ∀ c ∈ k.toList, safeChar c = c)
    (hkey : ∀ c ∈ key.toList, safeChar c = c) (h : fileName k = fileName key) : k = key := by
  rw [fileName_eq_iff, map_safeChar hk, map_safeChar hkey] at h
  exact String.toList_inj.1 h

/-- The patches of the keys that share a file are those of one key when no other key of the
writes shares it. -/
theorem patchesUnder_of_alone {writes : List (String × Theme)}
    (h : ∀ write ∈ writes, fileName write.1 = fileName key → write.1 = key) :
    patchesUnder (fileName · = fileName key) writes = patchesUnder (· = key) writes := by
  rw [patchesUnder, patchesUnder, List.filter_congr]
  intro write hw
  rw [decide_eq_decide]
  constructor
  · exact h write hw
  · intro hk
    rw [hk]

/-- **Themes under different file names are kept apart**: after writes to an empty folder the
theme of a key has the patches written under the keys that share its file, and nothing else.
These keys agree with it once unsafe characters are replaced, so of safe characters there is one;
when no other of them was written, the theme has the patches of the key alone. -/
theorem themes_apart (writes : List (String × Theme)) (key : String) :
    let theme := (({} : Folder).writeAll writes).load key
    theme = mergeAll (patchesUnder (fileName · = fileName key) writes) ∧
    (∀ k, fileName k = fileName key ↔ k.toList.map safeChar = key.toList.map safeChar) ∧
    (∀ k, (∀ c ∈ k.toList, safeChar c = c) → (∀ c ∈ key.toList, safeChar c = c) →
      fileName k = fileName key → k = key) ∧
    ((∀ write ∈ writes, fileName write.1 = fileName key → write.1 = key) →
      theme = mergeAll (patchesUnder (· = key) writes)) := by
  intro theme
  have htheme : theme = mergeAll (patchesUnder (fileName · = fileName key) writes) := by
    have hfile := file?_writeAll {} writes key
    exact (congrArg (Option.getD · []) hfile).trans (getD_foldl_mergeInto _ _)
  refine ⟨htheme, fun k => fileName_eq_iff, fun k => eq_of_fileName_eq, ?_⟩
  intro halone
  rw [htheme, patchesUnder_of_alone halone]

/-- Two keys of safe characters. -/
theorem themes_apart_safe :
    let dark : Theme := [("mode", .text "dark")]
    let light : Theme := [("mode", .text "light")]
    (({} : Folder).writeAll [("app", dark), ("web", light)]).load "app" = mergeAll [dark] := by
  intro dark light
  obtain ⟨-, -, -, halone⟩ := themes_apart [("app", dark), ("web", light)] "app"
  have hfiles : fileName "web" ≠ fileName "app" := by decide +kernel
  rw [halone (by simp [hfiles])]
  simp [patchesUnder]

/-- A patch written under one key is loaded under another one that shares its file. -/
theorem theme_of_another_key :
    (({} : Folder).writeAll [("a/b", [("mode", .text "dark")])]).load "a_b" ≠
      mergeAll (patchesUnder (· = "a_b") [("a/b", [("mode", .text "dark")])]) := by
  have hfiles : fileName "a/b" = fileName "a_b" := by decide +kernel
  have hload : (({} : Folder).writeAll [("a/b", [("mode", .text "dark")])]).load "a_b" =
      [("mode", .text "dark")] := by
    rw [load_eq, file?_writeAll, getD_foldl_mergeInto, patchesUnder,
      List.filter_cons_of_pos (by simpa using hfiles)]
    rfl
  rw [hload]
  simp [patchesUnder, mergeAll]

end Restyle.Sync

import Mathlib
import ShotRecorder.Event.File

/-!
The lines of a file. Line feeds between some texts are line ends whatever the texts are, so the lines that are read are
those of each text in turn (`filledLines_intercalate`): none of a blank text, and the text itself if no character in it
ends a line. A file in which no text starts like an array is read line by line (`listOfFile_lines`), and two such files
with a line feed between them are loaded one after the other (`load_joined`).
-/
namespace ShotRecorder

theorem Encoding.textOf_toUTF8 (text : String) : Encoding.textOf text.toUTF8 = .ok text := by
  simp [Encoding.textOf,String.fromUTF8?,String.fromUTF8,text.isValidUTF8]

namespace Lines

/-! ### Line ends read as line feeds -/

theorem unify_cons {c : Char} (notReturn : c ≠ '\r') (rest : List Char) : unify (c :: rest) = c :: unify rest := by
  rw [unify]
  · rintro rest' rfl
    exact absurd rfl notReturn
  · exact notReturn

theorem unify_return {rest : List Char} (alone : rest.head? ≠ some '\n') :
    unify ('\r' :: rest) = '\n' :: unify rest := by
  rw [unify]
  rintro rest' rfl
  exact alone rfl

/-- Texts are read apart, unless a carriage return at the end of the first belongs to a line feed of the second. -/
theorem unify_append {x y : List Char} (apart : x.getLast? = some '\r' → y.head? ≠ some '\n') :
    unify (x ++ y) = unify x ++ unify y := by
  induction x using unify.induct with
  | case1 => rfl
  | case2 rest ih =>
    have pair : ∀ rest, unify ('\r' :: '\n' :: rest) = '\n' :: unify rest := fun _ => rfl
    rw [List.cons_append,List.cons_append,pair,pair,ih,List.cons_append]
    exact fun ends => apart (by simp [List.getLast?_cons,ends])
  | case3 rest notPair ih =>
    have alone : rest.head? ≠ some '\n' := by
      rintro next
      obtain ⟨rest',rfl⟩ := List.head?_eq_some_iff.mp next
      exact notPair rest' rfl
    have alone' : (rest ++ y).head? ≠ some '\n' := by
      cases rest with
      | nil => exact apart rfl
      | cons c rest => exact alone
    rw [List.cons_append,unify_return alone',unify_return alone,ih,List.cons_append]
    exact fun ends => apart (by simp [List.getLast?_cons,ends])
  | case4 c rest _ notReturn ih =>
    rw [List.cons_append,unify_cons notReturn,unify_cons notReturn,ih,List.cons_append]
    exact fun ends => apart (by simp [List.getLast?_cons,ends])

theorem unify_same {cs : List Char} (noReturn : '\r' ∉ cs) : unify cs = cs := by
  induction cs with
  | nil => rfl
  | cons c rest ih =>
    rw [List.mem_cons,not_or] at noReturn
    rw [unify_cons (Ne.symm noReturn.1),ih noReturn.2]

theorem return_notMem_unify (cs : List Char) : '\r' ∉ unify cs := by
  fun_induction unify cs with
  | case1 => simp
  | case2 rest ih | case3 rest _ ih => simpa using ih
  | case4 c rest _ notReturn ih => simpa [Ne.symm notReturn] using ih

/-- What holds of all characters and of line feeds still holds of all. -/
theorem forall_mem_unify {P : Char → Prop} (lineFeed : P '\n') {cs : List Char} (each : ∀ c ∈ cs, P c) :
    ∀ c ∈ unify cs, P c := by
  fun_induction unify cs with
  | case1 => simp
  | case2 rest ih =>
    rw [List.forall_mem_cons,List.forall_mem_cons] at each
    exact List.forall_mem_cons.mpr ⟨lineFeed,ih each.2.2⟩
  | case3 rest _ ih =>
    rw [List.forall_mem_cons] at each
    exact List.forall_mem_cons.mpr ⟨lineFeed,ih each.2⟩
  | case4 c rest _ _ ih =>
    rw [List.forall_mem_cons] at each
    exact List.forall_mem_cons.mpr ⟨each.1,ih each.2⟩

/-! ### Lines -/

theorem split_cons {c : Char} (notReturn : c ≠ '\r') (rest : List Char) :
    split (c :: rest) =
      if endsLine c then [] :: split rest
      else match split rest with
        | [] => [[c]]
        | line :: lines => (c :: line) :: lines := by
  exact split.eq_3 c rest fun _ isReturn _ => notReturn isReturn

theorem split_eq_nil {cs : List Char} : split cs = [] ↔ cs = [] := by
  fun_cases split cs <;> simp

/-- A line feed ends a line; the line is new if the text before it is empty or ends with a line end of its own. -/
theorem split_lineFeed {x : List Char} (noReturn : '\r' ∉ x) (y : List Char) :
    ∃ more, (more = [] ∧ x ≠ [] ∨ more = [[]]) ∧ split (x ++ '\n' :: y) = split x ++ (more ++ split y) := by
  induction x with
  | nil => exact ⟨[[]],.inr rfl,split_cons (by decide) y⟩
  | cons c x ih =>
    rw [List.mem_cons,not_or] at noReturn
    obtain ⟨more,some,parts⟩ := ih noReturn.2
    have notReturn := Ne.symm noReturn.1
    rw [List.cons_append,split_cons notReturn,split_cons notReturn]
    by_cases ends : endsLine c = true
    · rw [if_pos ends,if_pos ends,parts]
      exact ⟨more,some.imp (fun none => ⟨none.1,by simp⟩) id,rfl⟩
    · -- The character joins the first line of the rest, if there is one.
      rw [if_neg ends,if_neg ends,parts]
      rcases lines : split x with _ | ⟨line,lines⟩
      · obtain rfl := split_eq_nil.mp lines
        obtain rfl : more = [[]] := some.resolve_left fun none => none.2 rfl
        exact ⟨[],.inl ⟨rfl,by simp⟩,rfl⟩
      · exact ⟨more,some.imp (fun none => ⟨none.1,by simp⟩) id,rfl⟩

theorem mem_split {cs line : List Char} (among : line ∈ split cs) : ∀ c ∈ line, c ∈ cs := by
  fun_induction split cs generalizing line with
  | case1 => simp at among
  | case2 rest ih =>
    rcases List.mem_cons.mp among with rfl | among
    · simp
    · exact fun c inside => by simp [ih among c inside]
  | case3 c rest _ ends ih =>
    rcases List.mem_cons.mp among with rfl | among
    · simp
    · exact fun c inside => by simp [ih among c inside]
  | case4 c rest _ _ last ih =>
    obtain rfl := List.mem_singleton.mp among
    simp
  | case5 c rest _ _ first lines more ih =>
    rcases List.mem_cons.mp among with rfl | among
    · exact List.forall_mem_cons.mpr ⟨by simp,fun d inside => .tail _ (ih (by simp [more]) d inside)⟩
    · exact fun d inside => .tail _ (ih (by simp [more,among]) d inside)

/-- A text in which no character ends a line is one line. -/
theorem split_whole {cs : List Char} (some : cs ≠ []) (noEnds : ∀ c ∈ cs, endsLine c = false) : split cs = [cs] := by
  induction cs with
  | nil => exact absurd rfl some
  | cons c rest ih =>
    rw [List.forall_mem_cons] at noEnds
    have notReturn : c ≠ '\r' := by
      rintro rfl
      exact absurd noEnds.1 (by decide)
    rw [split_cons notReturn,noEnds.1]
    rcases rest with _ | ⟨d,rest⟩
    · rfl
    · rw [ih (by simp) noEnds.2]
      rfl

end Lines

namespace Event
open Lines

/-! ### Lines that hold something -/

theorem filledLines_lineFeed {x : List Char} (noReturn : '\r' ∉ x) (y : List Char) :
    filledLines (x ++ '\n' :: y) = filledLines x ++ filledLines y := by
  obtain ⟨more,some,parts⟩ := split_lineFeed noReturn y
  have none : more.filter (fun line => !line.all Blank.isBlank) = [] := by
    rcases some with ⟨rfl,-⟩ | rfl <;> rfl
  rw [filledLines,parts,List.filter_append,List.filter_append,none]
  rfl

/-- The lines before a line feed and those behind it, whether or not a carriage return belongs to it. -/
theorem filledLines_unify_lineFeed (a b : List Char) :
    filledLines (unify (a ++ '\n' :: b)) = filledLines (unify a) ++ filledLines (unify b) := by
  by_cases apart : a.getLast? = some '\r'
  · -- The carriage return and the line feed are one line end, with what is before them on one side of it.
    obtain ⟨z,rfl⟩ := List.getLast?_eq_some_iff.mp apart
    have alone : unify (z ++ ['\r']) = unify z ++ '\n' :: [] := unify_append fun _ => by decide
    have pair : unify (z ++ ['\r'] ++ '\n' :: b) = unify z ++ '\n' :: unify b := by
      rw [List.append_assoc]
      exact unify_append fun _ => by simp
    rw [pair,alone,filledLines_lineFeed (return_notMem_unify z),filledLines_lineFeed (return_notMem_unify z)]
    simp [filledLines,split]
  · rw [unify_append fun ends => absurd ends apart,unify_cons (by decide),filledLines_lineFeed (return_notMem_unify a)]

theorem filledLines_intercalate (texts : List (List Char)) :
    filledLines (unify (['\n'].intercalate texts)) = texts.flatMap fun text => filledLines (unify text) := by
  induction texts with
  | nil => rfl
  | cons text rest ih =>
    rcases rest with _ | ⟨next,rest⟩
    · simp
    · rw [List.intercalate_cons_cons,List.append_assoc,List.singleton_append,filledLines_unify_lineFeed,ih]
      rfl

theorem filledLines_blank {cs : List Char} (blank : ∀ c ∈ cs, Blank.isBlank c = true) :
    filledLines (unify cs) = [] := by
  have blank' := forall_mem_unify (by decide) blank
  simp only [filledLines,List.filter_eq_nil_iff,Bool.not_eq_true',Bool.not_eq_false,List.all_eq_true]
  exact fun line among c inside => blank' c (mem_split among c inside)

theorem filledLines_whole {cs : List Char} (filled : ∃ c ∈ cs, Blank.isBlank c = false)
    (noEnds : ∀ c ∈ cs, endsLine c = false) : filledLines (unify cs) = [cs] := by
  obtain ⟨c,inside,notBlank⟩ := filled
  have noReturn : '\r' ∉ cs := fun inside => absurd (noEnds _ inside) (by decide)
  rw [unify_same noReturn,filledLines,split_whole (List.ne_nil_of_mem inside) noEnds]
  have holds : cs.all Blank.isBlank = false := List.all_eq_false.mpr ⟨c,inside,by simp [notBlank]⟩
  simp [holds]

/-! ### Arrays and lines -/

theorem isArrayText_unify (cs : List Char) : isArrayText (unify cs) = isArrayText cs := by
  have skip : ∀ {c : Char} (rest : List Char), Blank.isBlank c = true → isArrayText (c :: rest) = isArrayText rest :=
    fun rest blank => by simp [isArrayText,blank]
  fun_induction unify cs with
  | case1 => rfl
  | case2 rest ih => rw [skip _ (by decide),skip _ (by decide),skip _ (by decide),ih]
  | case3 rest _ ih => rw [skip _ (by decide),skip _ (by decide),ih]
  | case4 c rest _ _ ih =>
    by_cases blank : Blank.isBlank c = true
    · rw [skip _ blank,skip _ blank,ih]
    · simp [isArrayText,blank]

theorem isArrayText_intercalate {texts : List (List Char)} (noArray : ∀ text ∈ texts, isArrayText text = false) :
    isArrayText (['\n'].intercalate texts) = false := by
  induction texts with
  | nil => rfl
  | cons text rest ih =>
    rw [List.forall_mem_cons] at noArray
    rcases rest with _ | ⟨next,rest⟩
    · simpa using noArray.1
    · have behind := ih noArray.2
      rw [List.intercalate_cons_cons,List.append_assoc,isArrayText,List.dropWhile_append]
      split
      · simpa [isArrayText,Blank.isBlank,Blank.isWhiteSpace] using behind
      · rename_i filled
        obtain ⟨c,more,first⟩ := List.exists_cons_of_ne_nil fun none => filled (List.isEmpty_iff.mpr none)
        have start := noArray.1
        rw [isArrayText,first] at start
        rwa [first]

theorem listOfFile_toUTF8 (text : String) : listOfFile text.toUTF8 = listOfText (unify text.toList) := by
  simp only [listOfFile,Encoding.textOf_toUTF8]

theorem listOfFile_text (cs : List Char) : listOfFile (String.ofList cs).toUTF8 = listOfText (unify cs) := by
  rw [listOfFile_toUTF8,String.toList_ofList]

/-- A file that starts like an array is read as one. -/
theorem listOfFile_array {cs : List Char} (isArray : isArrayText cs = true) :
    listOfFile (String.ofList cs).toUTF8 = (Checked.ofText (listOfJson .text) (unify cs)).orFault := by
  rw [listOfFile_text,listOfText,isArrayText_unify,isArray]
  rfl

/-- A file of texts with line feeds between them, none of which starts like an array, is read line by line. -/
theorem listOfFile_lines {texts : List (List Char)} (noArray : ∀ text ∈ texts, isArrayText text = false) :
    listOfFile (String.ofList (['\n'].intercalate texts)).toUTF8 =
      (texts.flatMap fun text => filledLines (unify text)).mapM fun line =>
        (Checked.ofText (ofJson .text) line).orFault := by
  rw [listOfFile_text,listOfText,isArrayText_unify,isArrayText_intercalate noArray,filledLines_intercalate]
  rfl

/-- A file that does not start like an array is read line by line. -/
theorem listOfFile_filledLines {text : String} (noArray : isArrayText text.toList = false) :
    listOfFile text.toUTF8 =
      (filledLines (unify text.toList)).mapM fun line => (Checked.ofText (ofJson .text) line).orFault := by
  rw [listOfFile_toUTF8,listOfText,isArrayText_unify,noArray]
  rfl

/-! ### Files joined -/

/-- Two files, neither of which starts like an array, with a line feed between them: what is loaded is what the first
    holds and then what the second holds. A fault of the first is the fault of both, and so is one of the second if the
    first has none. -/
theorem load_joined {a b : String} (noArray : isArrayText a.toList = false) (noArray' : isArrayText b.toList = false) :
    listOfFile (a ++ "\n" ++ b).toUTF8 = (do
      let events ← listOfFile a.toUTF8
      let others ← listOfFile b.toUTF8
      pure (events ++ others)) := by
  have joined : a ++ "\n" ++ b = String.ofList (['\n'].intercalate [a.toList,b.toList]) := by
    simp [← String.toList_inj,List.intercalate]
  have neither : ∀ text ∈ [a.toList,b.toList], isArrayText text = false :=
    List.forall_mem_cons.mpr ⟨noArray,List.forall_mem_singleton.mpr noArray'⟩
  rw [joined,listOfFile_lines neither,listOfFile_filledLines noArray,listOfFile_filledLines noArray',List.flatMap_cons,
    List.flatMap_singleton,List.mapM_append]

/-- A carriage return at the end of the first file and the line feed behind it are one line end. The second file starts
    with two more and ends with another; what the third holds is no event, wherever it stands. -/
theorem load_joined_at_return :
    let first := "\x7b\"type\":\"Message\",\"text\":\"m\"\x7d\r"
    let second := "\u0085 \u2028\x7b\"type\":\"Result\",\"success\":true,\"value\":\"0\"\x7d\x0c"
    let third := "\r\n\x7b\x7d"
    listOfFile (first ++ "\n" ++ second).toUTF8 = .ok [.message "m",.result true "0"] ∧
      ∃ fault, listOfFile third.toUTF8 = .error fault ∧ listOfFile (second ++ "\n" ++ third).toUTF8 = .error fault ∧
        listOfFile (third ++ "\n" ++ first).toUTF8 = .error fault := by
  intro first second third
  have noArray : isArrayText first.toList = false := by decide +kernel
  have noArray' : isArrayText second.toList = false := by decide +kernel
  have noArray'' : isArrayText third.toList = false := by decide +kernel
  have loaded : listOfFile first.toUTF8 = .ok [.message "m"] := by
    rw [listOfFile_toUTF8]
    cbv
  have loaded' : listOfFile second.toUTF8 = .ok [.result true "0"] := by
    rw [listOfFile_toUTF8]
    cbv
  have refused : (listOfFile third.toUTF8).isOk = false := by
    rw [listOfFile_toUTF8]
    cbv
  refine ⟨?_,?_⟩
  · rw [load_joined noArray noArray',loaded,loaded']
    rfl
  · cases outcome : listOfFile third.toUTF8 with
    | ok events =>
      rw [outcome] at refused
      cases refused
    | error fault =>
      refine ⟨fault,rfl,?_,?_⟩
      · rw [load_joined noArray' noArray'',loaded',outcome]
        rfl
      · rw [load_joined noArray'' noArray,outcome]
        rfl

end Event

end ShotRecorder

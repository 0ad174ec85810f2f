import PullReview.Json.Encoding

/-!
# Room for nesting

The reader has room for so many arrays and objects inside one another. Whatever room there is, some text needs more:
arrays that stand one inside the other are read if there is room for all of them (`readValue_nested`), and are too deep
if there is not (`readValue_nested_tooDeep`). The same goes for a whole text that holds them under a member of an
object in a list (`read_nestedText`, `read_nestedText_tooDeep`).
-/

namespace PullReview.Json

/-- Arrays one inside the other, `depth` of them around the innermost. -/
def nested : Nat → Json
  | 0 => .arr []
  | depth + 1 => .arr [nested depth]

theorem readValue_nested {depth fuel room : Nat} (rest : List CodePoint) (hfuel : 2 * depth < fuel)
    (hroom : depth < room) :
    readValue fuel room (List.replicate (depth + 1) (.char '[') ++ (List.replicate (depth + 1) (.char ']') ++ rest)) =
      .ok (nested depth, rest) := by
  induction depth generalizing fuel room rest with
  | zero =>
    obtain ⟨fuel, rfl⟩ := Nat.exists_eq_add_of_lt hfuel
    obtain ⟨room, rfl⟩ := Nat.exists_eq_add_of_lt hroom
    rfl
  | succ depth ih =>
    obtain ⟨fuel, rfl⟩ : ∃ n, fuel = n + 2 := ⟨fuel - 2, by omega⟩
    obtain ⟨room, rfl⟩ : ∃ n, room = n + 1 := ⟨room - 1, by omega⟩
    have hinner := @ih fuel room (.char ']' :: rest) (by omega) (by omega)
    have hclosing : List.replicate (depth + 1 + 1) (CodePoint.char ']') ++ rest =
        List.replicate (depth + 1) (.char ']') ++ .char ']' :: rest := by
      rw [List.replicate_succ', List.append_assoc, List.singleton_append]
    rw [List.replicate_succ, List.cons_append, hclosing, readValue]
    rw [List.replicate_succ, List.cons_append] at hinner ⊢
    show readItems (fuel + 1) room [] (.char '[' :: _) = _
    rw [readItems, hinner]
    rfl

theorem readValue_nested_tooDeep {depth fuel room : Nat} (rest : List CodePoint) (hfuel : 2 * room < fuel)
    (hroom : room ≤ depth) :
    readValue fuel room (List.replicate (depth + 1) (.char '[') ++ rest) = .error .tooDeep := by
  induction room generalizing fuel depth with
  | zero =>
    obtain ⟨fuel, rfl⟩ : ∃ n, fuel = n + 1 := ⟨fuel - 1, by omega⟩
    rfl
  | succ room ih =>
    obtain ⟨fuel, rfl⟩ : ∃ n, fuel = n + 2 := ⟨fuel - 2, by omega⟩
    obtain ⟨depth, rfl⟩ : ∃ n, depth = n + 1 := ⟨depth - 1, by omega⟩
    have hinner := @ih depth fuel (by omega) (by omega)
    rw [List.replicate_succ, List.cons_append, readValue]
    rw [List.replicate_succ, List.cons_append] at hinner ⊢
    show readItems (fuel + 1) room [] (.char '[' :: _) = _
    rw [readItems, hinner]

/-! ## A whole text -/

/-- A list of one object, in which arrays stand one inside the other under a member. -/
def nestedText (depth : Nat) : List Char :=
  '[' :: '\x7b' :: '"' :: 'x' :: '"' :: ':' ::
    (List.replicate (depth + 1) '[' ++ (List.replicate (depth + 1) ']' ++ ['\x7d', ']']))

/-- What `nestedText` is read as. -/
def nestedRecord (depth : Nat) : Json := .obj [("x", nested depth)]

theorem length_nestedText (depth : Nat) : (nestedText depth).length = 2 * depth + 10 := by
  simp only [nestedText, List.length_cons, List.length_append, List.length_replicate, List.length_nil]
  omega

/-- What becomes of the inner arrays becomes of the text. -/
theorem read_nestedText_eq {depth room : Nat} (inner : Except ReadError Json)
    (h : readValue (2 * depth + 7) room
        (List.replicate (depth + 1) (.char '[') ++
          (List.replicate (depth + 1) (.char ']') ++ [.char '\x7d', .char ']'])) =
      inner.map (·, [.char '\x7d', .char ']'])) :
    read (room + 2) ((nestedText depth).map .char) = inner.map fun value => .arr [.obj [("x", value)]] := by
  have hlength : ((nestedText depth).map CodePoint.char).length + 1 = 2 * depth + 11 := by
    rw [List.length_map, length_nestedText]
  simp only [nestedText, List.map_cons, List.map_append, List.map_replicate, List.map_nil] at hlength ⊢
  rw [List.replicate_succ, List.cons_append] at h hlength ⊢
  generalize List.replicate depth (CodePoint.char '[') ++
    (List.replicate (depth + 1) (CodePoint.char ']') ++ [CodePoint.char '\x7d', CodePoint.char ']']) = ps at h hlength ⊢
  have hkey : readString none [] (.char 'x' :: .char '"' :: .char ':' :: .char '[' :: ps) =
      .ok ("x", .char ':' :: .char '[' :: ps) := rfl
  have hopened (p : CodePoint) (hp : isSpace p = false) (ps : List CodePoint) : skipSpace (p :: ps) = p :: ps := by
    simp [skipSpace, hp]
  -- The member, its object and the list each take one step of the reader.
  have hmember : readMembers (2 * depth + 8) room []
      (.char '"' :: .char 'x' :: .char '"' :: .char ':' :: .char '[' :: ps) =
        inner.map fun value => (.obj [("x", value)], [.char ']']) := by
    rw [readMembers, hkey]
    simp only [hopened (.char ':') rfl, hopened (.char '[') rfl, h]
    cases inner <;> rfl
  have hitem : readItems (2 * depth + 10) (room + 1) []
      (.char '\x7b' :: .char '"' :: .char 'x' :: .char '"' :: .char ':' :: .char '[' :: ps) =
        inner.map fun value => (.arr [.obj [("x", value)]], []) := by
    have hobject (ps : List CodePoint) : readValue (2 * depth + 9) (room + 1) (.char '\x7b' :: .char '"' :: ps) =
        readMembers (2 * depth + 8) room [] (.char '"' :: ps) :=
      rfl
    rw [readItems, hobject, hmember]
    cases inner <;> rfl
  have hlist (ps : List CodePoint) : readValue (2 * depth + 11) (room + 2) (.char '[' :: .char '\x7b' :: ps) =
      readItems (2 * depth + 10) (room + 1) [] (.char '\x7b' :: ps) :=
    rfl
  rw [read, hlength, hopened (.char '[') rfl, hlist, hitem]
  cases inner <;> rfl

theorem read_nestedText {depth room : Nat} (hroom : depth + 2 < room) :
    read room ((nestedText depth).map .char) = .ok (.arr [nestedRecord depth]) := by
  obtain ⟨room, rfl⟩ : ∃ n, room = n + 2 := ⟨room - 2, by omega⟩
  exact read_nestedText_eq (.ok (nested depth)) (readValue_nested _ (by omega) (by omega))

theorem read_nestedText_tooDeep {depth room : Nat} (hroom : room ≤ depth) :
    read (room + 2) ((nestedText depth).map .char) = .error .tooDeep :=
  read_nestedText_eq (.error .tooDeep) (readValue_nested_tooDeep _ (by omega) hroom)

/-- The bytes of a text in ASCII. -/
def asciiBytes (cs : List Char) : List UInt8 := cs.map fun c => UInt8.ofNat c.toNat

theorem ofUtf8?_asciiBytes {cs : List Char} (h : ∀ c ∈ cs, c.toNat < 0x80) :
    ofUtf8? (asciiBytes cs) = some (cs.map .char) := by
  induction cs with
  | nil => rfl
  | cons c cs ih =>
    have hc := h c List.mem_cons_self
    have hbyte : (UInt8.ofNat c.toNat).toNat = c.toNat := UInt8.toNat_ofNat_of_lt (Nat.lt_of_lt_of_le hc (by decide))
    have hrest := ih fun d hd => h d (List.mem_cons_of_mem c hd)
    unfold asciiBytes at hrest ⊢
    rw [List.map_cons]
    unfold ofUtf8?
    rw [hbyte, if_pos hc, hrest, Char.ofNat_toNat]
    rfl

theorem ofBytes_nestedText (room depth : Nat) :
    ofBytes room (asciiBytes (nestedText depth)) = (read room ((nestedText depth).map .char)).mapError .unreadable := by
  have hascii : ∀ c ∈ nestedText depth, c.toNat < 0x80 := by
    intro c hc
    simp only [nestedText, List.mem_cons, List.mem_append, List.mem_replicate, List.not_mem_nil, or_false] at hc
    obtain rfl | rfl | rfl | rfl | rfl | rfl | ⟨-, rfl⟩ | ⟨-, rfl⟩ | rfl | rfl := hc <;> decide
  have hdecode : decode? .utf8 (asciiBytes (nestedText depth)) = some ((nestedText depth).map .char) :=
    ofUtf8?_asciiBytes hascii
  have hdetect : detect (asciiBytes (nestedText depth)) = (.utf8, asciiBytes (nestedText depth)) := rfl
  rw [ofBytes, hdetect]
  dsimp only
  rw [hdecode]

end PullReview.Json

import Mathlib.Data.List.Basic
import ClusterGraph.Cluster.Host
import ClusterGraph.Proofs.Text.Natural
import ClusterGraph.Proofs.Text.Pieces

/-!
# Internal hosts

Hosts are told by how their texts begin and end. For an address in four numbers that is enough; but a name
may begin like an address.

* **`isInternal_iff`** — the internal hosts are the private ones, and whatever begins like a private address.
* **`isInternal_dotted_iff`** — an address is internal exactly if it lies in one of the private blocks.
* **`internal_iff_private_iff`** — so the private hosts are told rightly, but for names that begin like a
  private address.
* **`not_forall_internal_private`** — there is such a name.
-/

namespace ClusterGraph.Host

/-! ## Private hosts

`IsPrivate` says which hosts are meant, by numbers of addresses and by names; `BeginsPrivate` says what
can be seen at the beginning of a text. The test of the program is tied to the second one, and the rest of
the module is about where the two part. -/

/-- The number of the address with the given bytes. -/
def ofBytes (a b c d : Nat) : Nat :=
  ((a * 256 + b) * 256 + c) * 256 + d

/-- The addresses that have their first bits in common with a given one. -/
structure Block where
  base : Nat
  bits : Nat

def Block.Contains (block : Block) (address : Fin (Nat.pow 2 32)) : Prop :=
  address.val / Nat.pow 2 (32 - block.bits) = block.base / Nat.pow 2 (32 - block.bits)

/-- The blocks of private networks, and that of the machine itself. -/
def privateBlocks : List Block :=
  [⟨ofBytes 10 0 0 0, 8⟩, ⟨ofBytes 172 16 0 0, 12⟩, ⟨ofBytes 192 168 0 0, 16⟩, ⟨ofBytes 127 0 0 0, 8⟩]

/-- The address of a private network or of the machine itself, or a name that is used only there. -/
inductive IsPrivate : String → Prop where
  | address {address : Fin (Nat.pow 2 32)} {block : Block} (hb : block ∈ privateBlocks)
      (h : block.Contains address) : IsPrivate (dotted address)
  | localhost : IsPrivate "localhost"
  | loopback : IsPrivate "::1"
  | localName (name : String) : IsPrivate (name ++ ".local")
  | internalName (name : String) : IsPrivate (name ++ ".internal")

/-- Whatever begins like a private address. The second number of an office network may be written in any
way in which it can be read. -/
inductive BeginsPrivate : String → Prop where
  | ten (rest : String) : BeginsPrivate ("10" ++ "." ++ rest)
  | loopback (rest : String) : BeginsPrivate ("127" ++ "." ++ rest)
  | home (rest : String) : BeginsPrivate ("192" ++ "." ++ ("168" ++ "." ++ rest))
  | office {second : String} {n : Nat} (rest : String) (hs : '.' ∉ second.toList)
      (hr : rest = "" ∨ ∃ more, rest = "." ++ more) (hn : Text.natural 256 second = .ok n)
      (hl : 16 ≤ n) (hu : n ≤ 31) : BeginsPrivate ("172" ++ "." ++ (second ++ rest))

theorem toList_point : ".".toList = ['.'] := rfl

/-! ## The tests on texts

Each test is turned into a statement about how the text is put together. The second number of an office
network is the only part that is read as a number: it ends at the next point or at the end of the text. -/

theorem isPrivate172_iff {host : String} :
    isPrivate172 host = true ↔
      ∃ second tail n, host = "172" ++ "." ++ tail ∧
        (∃ others, Text.piecesAt '.' tail = second :: others) ∧
        Text.natural 256 second = .ok n ∧ 16 ≤ n ∧ n ≤ 31 := by
  have hfirst : '.' ∉ "172".toList := by decide
  constructor
  · intro h
    unfold isPrivate172 at h
    -- cut at the first point, if there is one
    rcases Text.notMem_or_exists_cut toList_point host with hno | ⟨first, tail, hcut, rfl⟩
    · rw [Text.piecesAt_of_notMem hno] at h
      cases h
    · rw [Text.piecesAt_append toList_point hcut] at h
      cases hpieces : Text.piecesAt '.' tail with
      | nil => rw [hpieces] at h; cases h
      | cons second others =>
        rw [hpieces] at h
        simp only [Bool.and_eq_true, beq_iff_eq] at h
        obtain ⟨rfl, h⟩ := h
        cases hn : Text.natural 256 second with
        | error fault => rw [hn] at h; cases h
        | ok n =>
          rw [hn] at h
          have hbounds : 16 ≤ n ∧ n ≤ 31 := by simpa [Except.toOption] using h
          exact ⟨second, tail, n, rfl, ⟨others, hpieces⟩, hn, hbounds⟩
  · rintro ⟨second, tail, n, rfl, ⟨others, hpieces⟩, hn, hl, hu⟩
    unfold isPrivate172
    rw [Text.piecesAt_append toList_point hfirst, hpieces]
    simp [hn, Except.toOption, hl, hu]

/-- The three tests of beginnings together. -/
theorem beginsPrivate_iff {host : String} :
    BeginsPrivate host ↔
      ["10.", "192.168.", "127."].any (Text.startsWith · host) = true ∨ isPrivate172 host = true := by
  simp only [List.any_cons, List.any_nil, Bool.or_false, Bool.or_eq_true, Text.startsWith_iff,
    isPrivate172_iff]
  constructor
  · rintro (⟨rest⟩ | ⟨rest⟩ | ⟨rest⟩ | ⟨rest, hs, hr, hn, hl, hu⟩)
    · exact Or.inl (Or.inl ⟨rest, rfl⟩)
    · exact Or.inl (Or.inr (Or.inr ⟨rest, rfl⟩))
    · exact Or.inl (Or.inr (Or.inl ⟨rest, by rw [← String.append_assoc, ← String.append_assoc]; rfl⟩))
    · refine Or.inr ⟨_, _, _, rfl, ?_, hn, hl, hu⟩
      exact (Text.exists_piecesAt_eq_cons_iff toList_point).2 ⟨hs, rest, rfl, hr⟩
  · rintro ((⟨rest, rfl⟩ | ⟨rest, rfl⟩ | ⟨rest, rfl⟩) | ⟨second, tail, n, rfl, hpieces, hn, hl, hu⟩)
    · exact .ten rest
    · have h := BeginsPrivate.home rest
      -- `192.168.` is one beginning, which is read in two parts
      rw [← String.append_assoc, ← String.append_assoc] at h
      exact h
    · exact .loopback rest
    · obtain ⟨hs, rest, rfl, hr⟩ := (Text.exists_piecesAt_eq_cons_iff toList_point).1 hpieces
      exact .office rest hs hr hn hl hu

theorem isInternal_cases {host : String} :
    isInternal host = true ↔
      BeginsPrivate host ∨ host = "localhost" ∨ host = "::1" ∨
        (∃ name, host = name ++ ".local") ∨ ∃ name, host = name ++ ".internal" := by
  -- the third of the endings is one of those that end like the first
  have hcluster : (∃ name, host = name ++ ".cluster.local") → ∃ name, host = name ++ ".local" := by
    rintro ⟨name, rfl⟩
    exact ⟨name ++ ".cluster", by rw [String.append_assoc]; rfl⟩
  have hends : [".local", ".internal", ".cluster.local"].any (Text.endsWith · host) = true ↔
      (∃ name, host = name ++ ".local") ∨ ∃ name, host = name ++ ".internal" := by
    simp only [List.any_cons, List.any_nil, Bool.or_false, Bool.or_eq_true, Text.endsWith_iff]
    constructor
    · rintro (h | h | h)
      · exact Or.inl h
      · exact Or.inr h
      · exact Or.inl (hcluster h)
    · exact Or.imp_right Or.inl
  have hnames : ["localhost", "::1"].contains host = true ↔ host = "localhost" ∨ host = "::1" := by
    simp
  rw [isInternal, Bool.or_eq_true, Bool.or_eq_true, Bool.or_eq_true, ← beginsPrivate_iff, hnames, hends,
    or_assoc, or_assoc]

/-! ## Addresses in four numbers

The four numbers of an address are separated by points, which no number contains. So they can be cut off
one after another, and the first two of them say in which private block the address lies, if in any. -/

theorem point_notMem_toString (n : Nat) : '.' ∉ (toString n).toList :=
  Text.notMem_toString rfl n

theorem dotted_eq (address : Nat) :
    dotted address =
      toString (address / 16777216 % 256) ++ "." ++ (toString (address / 65536 % 256) ++ "." ++
        (toString (address / 256 % 256) ++ "." ++ toString (address % 256))) := by
  simp only [dotted, List.map_cons, List.map_nil, String.intercalate_cons_cons,
    String.intercalate_singleton, Nat.pow_eq, Nat.reducePow, Nat.div_one, String.append_assoc]

/-- Nothing but digits and points. -/
theorem isDigit_or_eq_point_of_mem_dotted {address : Nat} {c : Char} (h : c ∈ (dotted address).toList) :
    c.isDigit = true ∨ c = '.' := by
  simp only [dotted_eq, String.toList_append, List.mem_append, toList_point, List.mem_singleton] at h
  rcases h with (h | h) | (h | h) | (h | h) | h
  all_goals first | exact Or.inl (Text.isDigit_of_mem_toString h) | exact Or.inr h

/-- What two numbers an address begins with is seen from its text. -/
theorem beginsPrivate_numbers_iff {a b : Nat} (hb : b < 256) (rest : String) :
    BeginsPrivate (toString a ++ "." ++ (toString b ++ "." ++ rest)) ↔
      a = 10 ∨ a = 127 ∨ a = 192 ∧ b = 168 ∨ a = 172 ∧ 16 ≤ b ∧ b ≤ 31 := by
  have hcut : ∀ {m n : Nat} {s t : String},
      toString m ++ "." ++ s = toString n ++ "." ++ t ↔ m = n ∧ s = t := Text.number_cut toList_point rfl
  have h10 : "10" = toString 10 := rfl
  have h127 : "127" = toString 127 := rfl
  have h192 : "192" = toString 192 := rfl
  have h168 : "168" = toString 168 := rfl
  have h172 : "172" = toString 172 := rfl
  constructor
  · intro h
    -- the text is taken apart once by its numbers and once by the way in which it is private
    generalize htext : toString a ++ "." ++ (toString b ++ "." ++ rest) = text at h
    cases h with
    | ten more =>
      rw [h10, hcut] at htext
      exact Or.inl htext.1
    | loopback more =>
      rw [h127, hcut] at htext
      exact Or.inr (Or.inl htext.1)
    | home more =>
      rw [h192, hcut, h168, hcut] at htext
      exact Or.inr (Or.inr (Or.inl ⟨htext.1, htext.2.1⟩))
    | @office second n more hs hr hn hl hu =>
      rw [h172, hcut] at htext
      obtain ⟨ha, htext⟩ := htext
      -- the second part ends at the second point, and so it is the second number
      have hsecond : second = toString b := by
        rcases hr with rfl | ⟨more, rfl⟩
        · rw [String.append_empty] at htext
          exact absurd (by simp [← htext]) hs
        · rw [← String.append_assoc] at htext
          exact ((Text.cut_first toList_point (point_notMem_toString b) hs).1 htext).1.symm
      rw [hsecond, Text.natural_toString hb] at hn
      cases hn
      exact Or.inr (Or.inr (Or.inr ⟨ha, hl, hu⟩))
  · rintro (rfl | rfl | ⟨rfl, rfl⟩ | ⟨rfl, hl, hu⟩)
    · exact .ten _
    · exact .loopback _
    · exact .home rest
    · have hassoc : toString b ++ "." ++ rest = toString b ++ ("." ++ rest) := String.append_assoc
      rw [hassoc]
      exact .office ("." ++ rest) (point_notMem_toString b) (Or.inr ⟨rest, rfl⟩)
        (Text.natural_toString hb) hl hu

/-- Which block an address lies in is seen from its first two numbers. -/
theorem exists_block_iff (address : Fin (Nat.pow 2 32)) :
    (∃ block ∈ privateBlocks, block.Contains address) ↔
      let a := address.val / 16777216 % 256
      let b := address.val / 65536 % 256
      a = 10 ∨ a = 127 ∨ a = 192 ∧ b = 168 ∨ a = 172 ∧ 16 ≤ b ∧ b ≤ 31 := by
  have hlt : address.val < 4294967296 := address.isLt
  simp only [privateBlocks, List.exists_mem_cons_iff, List.not_mem_nil, false_and, exists_false, or_false,
    Block.Contains, ofBytes, Nat.pow_eq, Nat.reducePow, Nat.reduceSub, Nat.reduceMul, Nat.reduceAdd,
    Nat.reduceDiv]
  -- each block is an interval of numbers with given first digits to the base 256
  omega

theorem beginsPrivate_dotted_iff (address : Fin (Nat.pow 2 32)) :
    BeginsPrivate (dotted address) ↔ ∃ block ∈ privateBlocks, block.Contains address := by
  rw [exists_block_iff, dotted_eq, beginsPrivate_numbers_iff (Nat.mod_lt _ (by omega))]

/-- **An address is internal exactly if it lies in one of the private blocks.** -/
theorem isInternal_dotted_iff (address : Fin (Nat.pow 2 32)) :
    isInternal (dotted address) = true ↔ ∃ block ∈ privateBlocks, block.Contains address := by
  -- no address is one of the names, or ends like one: they all have a character that no address has
  have hno : ∀ {c : Char} {text : String}, c.isDigit = false → c ≠ '.' → c ∈ text.toList →
      dotted address ≠ text := by
    rintro c text hd hp hm rfl
    rcases isDigit_or_eq_point_of_mem_dotted hm with h | h
    · rw [hd] at h
      cases h
    · exact hp h
  rw [isInternal_cases, beginsPrivate_dotted_iff]
  constructor
  · rintro (h | h | h | ⟨name, h⟩ | ⟨name, h⟩)
    · exact h
    · exact absurd h (hno (c := 'l') rfl (by decide) (by decide))
    · exact absurd h (hno (c := ':') rfl (by decide) (by decide))
    · exact absurd h (hno (c := 'l') rfl (by decide) (by simp))
    · exact absurd h (hno (c := 'i') rfl (by decide) (by simp))
  · exact Or.inl

/-! ## Names that begin like an address

A private host either is an address, of which the beginning is enough, or one of the private names. So the
test is right for all hosts but those that begin like a private address without being private. -/

theorem isInternal_iff {host : String} :
    isInternal host = true ↔ IsPrivate host ∨ BeginsPrivate host := by
  rw [isInternal_cases]
  constructor
  · rintro (h | rfl | rfl | ⟨name, rfl⟩ | ⟨name, rfl⟩)
    · exact Or.inr h
    · exact Or.inl .localhost
    · exact Or.inl .loopback
    · exact Or.inl (.localName name)
    · exact Or.inl (.internalName name)
  · rintro (h | h)
    · cases h with
      | @address address block hb h => exact Or.inl ((beginsPrivate_dotted_iff address).2 ⟨block, hb, h⟩)
      | localhost => exact Or.inr (Or.inl rfl)
      | loopback => exact Or.inr (Or.inr (Or.inl rfl))
      | localName name => exact Or.inr (Or.inr (Or.inr (Or.inl ⟨name, rfl⟩)))
      | internalName name => exact Or.inr (Or.inr (Or.inr (Or.inr ⟨name, rfl⟩)))
    · exact Or.inl h

/-- **The private hosts are told rightly, but for names that begin like a private address.** Every private
host is internal, and of the others those are that begin like a private address; among the addresses there
are none of these. -/
theorem internal_iff_private_iff (host : String) :
    (isInternal host = true ↔ IsPrivate host ∨ BeginsPrivate host) ∧
    (∀ address : Fin (Nat.pow 2 32),
      isInternal (dotted address) = true ↔ ∃ block ∈ privateBlocks, block.Contains address) ∧
    ((isInternal host = true ↔ IsPrivate host) ↔ (BeginsPrivate host → IsPrivate host)) := by
  refine ⟨isInternal_iff, isInternal_dotted_iff, ?_⟩
  rw [isInternal_iff]
  constructor
  · exact fun h hbegins => h.1 (Or.inr hbegins)
  · exact fun h => ⟨fun hor => hor.elim id h, Or.inl⟩

/-- A name of the public network that begins with the number of a private one counts as internal. -/
theorem not_forall_internal_private :
    ¬ ∀ host, isInternal host = true ↔ IsPrivate host := by
  intro hall
  have hinternal : isInternal "10.example.com" = true := by decide
  have hprivate : IsPrivate "10.example.com" := (hall _).1 hinternal
  generalize hhost : "10.example.com" = host at hprivate
  cases hprivate with
  | address hb h =>
    -- an address has digits and points alone, and no name ends in this way
    have hm : 'e' ∈ "10.example.com".toList := by decide
    rw [hhost] at hm
    exact absurd (isDigit_or_eq_point_of_mem_dotted hm) (by decide)
  | localhost => exact absurd hhost (by decide)
  | loopback => exact absurd hhost (by decide)
  | localName name => exact absurd (Text.endsWith_iff.2 ⟨name, hhost⟩) (by decide)
  | internalName name => exact absurd (Text.endsWith_iff.2 ⟨name, hhost⟩) (by decide)

end ClusterGraph.Host

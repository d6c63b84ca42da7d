import TopicGuard.Text.Utf8

/-!
Distinguished encoding of key files.

A file is a row of blocks, each with a tag, a length and that many bytes of content. Sequences and sets
hold further blocks. Only the parts that keys are made of are told apart; any other block is kept as opaque
content.
-/

set_option autoImplicit false

namespace TopicGuard.Crypto

/-- A block of a key file. -/
inductive Der where
  | sequence (blocks : List Der)
  | integer (bytes : Bytes)
  | bits (bytes : Bytes)
  | octets (bytes : Bytes)
  | objectId (bytes : Bytes)
  | other (tag : UInt8) (bytes : Bytes)
deriving Repr

namespace Der

/-- The number that bytes spell, the most significant first. -/
def natOfBytes (bs : Bytes) : Nat :=
  bs.foldl (fun n b => n * 256 + b.toNat) 0

/-- The length in front of a block's content: one byte below 128, else a byte that counts the bytes of the
length. -/
def length? : Bytes → Option (Nat × Bytes)
  | [] => none
  | b :: rest =>
    if b.toNat < 0x80 then some (b.toNat, rest)
    else
      let n := b.toNat - 0x80
      if n = 0 ∨ rest.length < n then none
      else some (natOfBytes (rest.take n), rest.drop n)

/-- The tag and the content of the first block, with what follows it. -/
def front? : Bytes → Option (UInt8 × Bytes × Bytes)
  | [] => none
  | tag :: rest => do
    let (n, rest) ← length? rest
    if rest.length < n then none
    else some (tag, rest.take n, rest.drop n)

/-- A row of blocks. Each block, and each step into one, takes one unit of fuel. -/
def blocks? : Nat → Bytes → Option (List Der)
  | _, [] => some []
  | 0, _ => none
  | fuel + 1, bs => do
    let (tag, content, rest) ← front? bs
    let block ←
      if tag = 0x30 ∨ tag = 0x31 then (blocks? fuel content).map .sequence
      else if tag = 0x02 then if content.isEmpty then none else some (.integer content)
      else if tag = 0x03 then if content.isEmpty then none else some (.bits (content.drop 1))
      else if tag = 0x04 then some (.octets content)
      else if tag = 0x06 then some (.objectId content)
      else some (.other tag content)
    let blocks ← blocks? fuel rest
    return block :: blocks

/-- The blocks of a file. Every block is at least two bytes long, so the fuel never runs out. -/
def ofBytes? (bs : Bytes) : Option (List Der) :=
  blocks? (bs.length + 1) bs

mutual

/-- The first bit or octet string inside a block, in the order of the file. -/
def firstString? : Der → Option Bytes
  | .bits bytes => some bytes
  | .octets bytes => some bytes
  | .sequence blocks => firstStringIn? blocks
  | _ => none

/-- The first bit or octet string inside a row of blocks. -/
def firstStringIn? : List Der → Option Bytes
  | [] => none
  | b :: blocks =>
    match firstString? b with
    | some bytes => some bytes
    | none => firstStringIn? blocks

end

mutual

/-- The object identifiers inside a block, in the order of the file. -/
def objectIds : Der → List Bytes
  | .objectId bytes => [bytes]
  | .sequence blocks => objectIdsIn blocks
  | _ => []

/-- The object identifiers inside a row of blocks. -/
def objectIdsIn : List Der → List Bytes
  | [] => []
  | b :: blocks => objectIds b ++ objectIdsIn blocks

end

end Der

end TopicGuard.Crypto

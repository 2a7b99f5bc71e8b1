import Chip8.Proofs.Operations

/-!
# Guarded operations

A second account of what the machine does, in which nothing is taken for
granted.  Registers, the stack, the keypad and the bytes of memory are tables
that are looked up by number; sums, differences, products and shifts are those
of fixed-width words.  Every number is looked at before it is used, and where
one does not fit, the operation ends in a trap.  Keys are bits of a mask, and a
sprite is drawn column by column into the bytes of the frame.

Only wrapping around that is meant to happen is not looked at: that of bytes in
`7xkk`, `8xy4`, `8xy5`, `8xy7`, `8xyE` and that of the index register in `Fx1E`.
Timers stop at zero by themselves.

Each guarded function bears the name of the plain one that it is an account of.

## Main definitions

* `Trap`: what must not happen
* `Guarded.execute`, `Guarded.step`: guarded instructions and steps
* `Guarded.perform`: guarded operations
-/

namespace Chip8

/-- Why a guarded operation went wrong. -/
inductive Trap
  /-- An index or a range lies outside its table. -/
  | index
  /-- The values copied are not as many as their places. -/
  | length
  /-- A sum or product is too large for its width. -/
  | overflow
  /-- A difference lies below zero. -/
  | underflow
  /-- A word is shifted by its width or more. -/
  | shift
  deriving DecidableEq, Repr

namespace Guarded

/-! ## Numbers -/

/-- The place of a table that an index names. -/
def index (size i : Nat) : Except Trap (Fin size) :=
  if h : i < size then .ok ⟨i, h⟩ else .error .index

/-- Look whether a table has so many places from a place on. -/
def range (size start len : Nat) : Except Trap Unit :=
  if start + len ≤ size then .ok () else .error .index

/-- Look whether the values copied are as many as their places. -/
def sameLength (places values : Nat) : Except Trap Unit :=
  if places = values then .ok () else .error .length

/-- Sums, products, differences and shifts, if they fit. -/
def add16 (a b : UInt16) : Except Trap UInt16 :=
  if a.toNat + b.toNat < UInt16.size then .ok (a + b) else .error .overflow

def mul16 (a b : UInt16) : Except Trap UInt16 :=
  if a.toNat * b.toNat < UInt16.size then .ok (a * b) else .error .overflow

def sub16 (a b : UInt16) : Except Trap UInt16 :=
  if b.toNat ≤ a.toNat then .ok (a - b) else .error .underflow

def shiftLeft16 (a : UInt16) (k : Nat) : Except Trap UInt16 :=
  if k < 16 then .ok (a <<< UInt16.ofNat k) else .error .shift

def shiftRight16 (a : UInt16) (k : Nat) : Except Trap UInt16 :=
  if k < 16 then .ok (a >>> UInt16.ofNat k) else .error .shift

def shiftLeft8 (b : UInt8) (k : Nat) : Except Trap UInt8 :=
  if k < 8 then .ok (b <<< UInt8.ofNat k) else .error .shift

def shiftRight8 (b : UInt8) (k : Nat) : Except Trap UInt8 :=
  if k < 8 then .ok (b >>> UInt8.ofNat k) else .error .shift

/-- A number that counts places in a table. -/
def count (n : Nat) : Except Trap Nat :=
  if n < UInt64.size then .ok n else .error .overflow

/-! ## Memory -/

/-- Look whether a range is within bounds; if so, its places are in the table. -/
def span (addr : UInt16) (len : Nat) : Except Trap (Except Fault Unit) := do
  if (← count (addr.toNat + len)) ≤ Memory.size then
    range Memory.size addr.toNat len
    return .ok ()
  else return .error (.addressOutOfBounds addr len)

def read (m : Memory) (addr : UInt16) (len : Nat) : Except Trap (Except Fault (List UInt8)) := do
  match ← span addr len with
  | .ok () => return .ok (m.slice addr.toNat len)
  | .error f => return .error f

def write (m : Memory) (addr : UInt16) (data : List UInt8) :
    Except Trap (Except Fault Memory) := do
  match ← span addr data.length with
  | .ok () => return .ok (m.overlay addr.toNat data)
  | .error f => return .error f

/-- The word at an address, put together from its two bytes. -/
def word (m : Memory) (addr : UInt16) : Except Trap (Except Fault Word) := do
  match ← read m addr 2 with
  | .ok bytes =>
    let hi := bytes.getD (← index bytes.length 0).val 0
    let lo := bytes.getD (← index bytes.length 1).val 0
    return .ok ((← shiftLeft16 hi.toUInt16 8) ||| lo.toUInt16)
  | .error f => return .error f

def clearFrame (m : Memory) : Except Trap Memory := do
  range Memory.size Memory.frameStart Memory.frameSize
  return m.clearFrame

def glyphAddress (digit : UInt8) : Except Trap UInt16 := do
  add16 (UInt16.ofNat Memory.fontStart)
    (← mul16 (digit &&& 0x0F).toUInt16 (UInt16.ofNat Memory.glyphSize))

def loadImage (m : Memory) (image : Image) : Except Trap (Except LoadError Memory) := do
  match image.failure with
  | some reason => return .error (.source reason)
  | none =>
    if image.bytes.length ≤ Memory.maxImageSize then
      range Memory.size Memory.programStart image.bytes.length
      return .ok (m.overlay Memory.programStart image.bytes)
    else return .error (.tooLarge image.bytes.length)

/-! ## Sprites -/

/-- Draw column `c` of a row `r` of a sprite with its corner at a position. -/
def drawPixel (x y r : Nat) (row : UInt8) (s : Memory × Bool) (c : Nat) :
    Except Trap (Memory × Bool) := do
  if row &&& (← shiftRight8 0x80 c) = 0 then return s
  let px := (← count (x + c)) % Sprite.frameWidth
  let py := (← count (y + r)) % Sprite.frameHeight
  let offset ← count (py * Sprite.frameWidth + px)
  let mask ← shiftRight8 0x80 (offset % 8)
  let place := Memory.frameStart + (← index Memory.frameSize (offset / 8)).val
  let byte := s.1.byteAt place ^^^ mask
  return (s.1.setByte place byte, s.2 || byte &&& mask == 0)

def drawRow (x y r : Nat) (row : UInt8) (s : Memory × Bool) : Except Trap (Memory × Bool) :=
  (List.range Sprite.width).foldlM (drawPixel x y r row) s

/-- Draw the rows of a sprite from row `r` on. -/
def drawRows (x y r : Nat) (s : Memory × Bool) : List UInt8 → Except Trap (Memory × Bool)
  | [] => return s
  | row :: rest => do drawRows x y (r + 1) (← drawRow x y r row s) rest

/-! ## Registers and the stack -/

def reg (m : Machine) (x : Nat) : Except Trap UInt8 := do
  return m.reg (← index 16 x)

def setReg (m : Machine) (x : Nat) (b : UInt8) : Except Trap Machine := do
  return m.setReg (← index 16 x) b

def setFlagged (m : Machine) (x : Nat) (value : UInt8) (flag : Bool) : Except Trap Machine := do
  setReg (← setReg m x value) 0xF flag.toUInt8

def advance (m : Machine) : Except Trap Machine := do
  return { m with pc := ← add16 m.pc 2 }

def site (m : Machine) : Except Trap UInt16 :=
  sub16 m.pc 2

def skipIf (m : Machine) (condition : Bool) : Except Trap Machine :=
  if condition then advance m else return m

def call (m : Machine) (target : Address) : Except Trap Outcome := do
  if m.depth.val ≥ 16 then return m.faulted .stackOverflow
  let place ← index 16 m.depth.val
  let depth ← index 17 (m.depth.val + 1)
  return Machine.done { m with
    stack := m.stack.set place m.pc, depth, pc := UInt16.ofNat target.val }

def ret (m : Machine) : Except Trap Outcome := do
  if m.depth.val = 0 then return m.faulted .stackUnderflow
  let depth ← index 17 (m.depth.val - 1)
  let place ← index 16 depth.val
  return Machine.done { m with depth, pc := m.stack.get place }

/-! ## The keypad -/

/-- The generation of the latest press of each key. -/
def generations (p : Keypad) : Bank UInt64 :=
  Bank.ofFn fun k => (p.keys.get k).generation

/-- The keypad whose keys that are down are the bits of a mask. -/
def ofMask (mask : UInt16) (generations : Bank UInt64) : Keypad :=
  ⟨Bank.ofFn fun k => ⟨mask.toNat.testBit k.val, generations.get k⟩⟩

def isPressed (p : Keypad) (code : UInt8) : Except Trap Bool := do
  if code.toNat < 16 then return p.mask &&& (← shiftLeft16 1 code.toNat) != 0
  else return false

def press (p : Keypad) (code : UInt8) (generation : UInt64) : Except Trap Keypad := do
  let k := code &&& 0x0F
  let mask := p.mask ||| (← shiftLeft16 1 k.toNat)
  return ofMask mask ((generations p).set (← index 16 k.toNat) generation)

def release (p : Keypad) (code : UInt8) (generation : UInt64) : Except Trap (Bool × Keypad) := do
  let k := code &&& 0x0F
  let place ← index 16 k.toNat
  if (← isPressed p k) && (generations p).get place == generation then
    let mask := p.mask &&& ~~~(← shiftLeft16 1 k.toNat)
    return (true, ofMask mask (generations p))
  else return (false, p)

/-! ## Instructions -/

def storeBytes (m : Machine) (data : List UInt8) : Except Trap Outcome := do
  match ← write m.memory m.index data with
  | .ok memory => return Machine.done { m with memory }
  | .error f => return m.faulted f

/-- Store the registers from V0 up to a register. -/
def storeRegisters (m : Machine) (x : Register) : Except Trap Outcome := do
  range 16 0 (x.val + 1)
  storeBytes m (m.registersUpTo x)

def loadRegisters (m : Machine) (x : Register) : Except Trap Outcome := do
  match ← read m.memory m.index (x.val + 1) with
  | .ok values =>
    range 16 0 (x.val + 1)
    sameLength (x.val + 1) values.length
    return Machine.done (m.setRegisters values)
  | .error f => return m.faulted f

/-- How many rows a sprite has at most. -/
def maxRows : Nat := 15

def drawSprite (m : Machine) (x y : Register) (n : Nibble) : Except Trap Outcome := do
  match ← read m.memory m.index n.val with
  | .ok rows =>
    range maxRows 0 n.val
    sameLength n.val rows.length
    range Memory.size Memory.frameStart Memory.frameSize
    let (memory, collision) ←
      drawRows (← reg m x.val).toNat (← reg m y.val).toNat 0 (m.memory, false) rows
    return Machine.done (← setReg { m with memory } 0xF collision.toUInt8)
  | .error f => return m.faulted f

def awaitKey (m : Machine) (x : Register) : Except Trap Outcome :=
  match m.keypad.first? with
  | some k => return Machine.done (← setReg m x.val k.code)
  | none => return { machine := m, result := .ok .waitForKey }

/-- Carry out an instruction; the program counter points past it already. -/
def execute (m : Machine) : Instruction → Except Trap Outcome
  | .cls => return Machine.done { m with memory := ← clearFrame m.memory }
  | .ret => ret m
  | .sys target => return { machine := m, notices := [.routineIgnored target (← site m)] }
  | .jp target => return Machine.done { m with pc := UInt16.ofNat target.val }
  | .call target => call m target
  | .seByte x kk => return Machine.done (← skipIf m ((← reg m x.val) == kk))
  | .sneByte x kk => return Machine.done (← skipIf m ((← reg m x.val) != kk))
  | .seReg x y => return Machine.done (← skipIf m ((← reg m x.val) == (← reg m y.val)))
  | .sneReg x y => return Machine.done (← skipIf m ((← reg m x.val) != (← reg m y.val)))
  | .ldByte x kk => return Machine.done (← setReg m x.val kk)
  | .addByte x kk => return Machine.done (← setReg m x.val ((← reg m x.val) + kk))
  | .ldReg x y => return Machine.done (← setReg m x.val (← reg m y.val))
  | .or x y => return Machine.done (← setReg m x.val ((← reg m x.val) ||| (← reg m y.val)))
  | .and x y => return Machine.done (← setReg m x.val ((← reg m x.val) &&& (← reg m y.val)))
  | .xor x y => return Machine.done (← setReg m x.val ((← reg m x.val) ^^^ (← reg m y.val)))
  | .addReg x y => do
    let (a, b) := (← reg m x.val, ← reg m y.val)
    return Machine.done (← setFlagged m x.val (a + b) (255 < a.toNat + b.toNat))
  | .sub x y => do
    let (a, b) := (← reg m x.val, ← reg m y.val)
    return Machine.done (← setFlagged m x.val (a - b) (b < a))
  | .subn x y => do
    let (a, b) := (← reg m x.val, ← reg m y.val)
    return Machine.done (← setFlagged m x.val (b - a) (a < b))
  | .shr x _ => do
    let a ← reg m x.val
    return Machine.done (← setFlagged m x.val (← shiftRight8 a 1) (a &&& 0x01 != 0))
  | .shl x _ => do
    let a ← reg m x.val
    return Machine.done (← setFlagged m x.val (← shiftLeft8 a 1) (a &&& 0x80 != 0))
  | .ldIndex a => return Machine.done { m with index := UInt16.ofNat a.val }
  | .jpV0 a =>
    return Machine.done { m with pc := ← add16 (← reg m 0).toUInt16 (UInt16.ofNat a.val) }
  | .rnd x kk =>
    return Machine.done
      (← setReg { m with random := m.random.nextByte.2 } x.val (m.random.nextByte.1 &&& kk))
  | .drw x y n => drawSprite m x y n
  | .skp x => return Machine.done (← skipIf m (← isPressed m.keypad (← reg m x.val)))
  | .sknp x => return Machine.done (← skipIf m (!(← isPressed m.keypad (← reg m x.val))))
  | .ldFromDelay x => return Machine.done (← setReg m x.val m.timers.delay.value)
  | .ldKey x => awaitKey m x
  | .ldDelay x => return Machine.done (m.setDelay (← reg m x.val))
  | .ldSound x => return Machine.done (m.setSound (← reg m x.val))
  | .addIndex x => return Machine.done { m with index := m.index + (← reg m x.val).toUInt16 }
  | .ldGlyph x => return Machine.done { m with index := ← glyphAddress (← reg m x.val) }
  | .ldDecimal x => do storeBytes m (Machine.decimalDigits (← reg m x.val))
  | .store x => storeRegisters m x
  | .load x => loadRegisters m x
  | .unknown w => return { machine := m, notices := [.unsupported w (← site m)] }

/-- The instruction of a word, from its four nibbles alone. -/
def decode (w : Word) : Except Trap Instruction := do
  let kind ← index 16 (← shiftRight16 w 12).toNat
  let x ← index 16 (← shiftRight16 (w &&& 0x0F00) 8).toNat
  let y ← index 16 (← shiftRight16 (w &&& 0x00F0) 4).toNat
  let n ← index 16 (w &&& 0x000F).toNat
  return Instruction.decode (Word.ofFields kind.val x y n.val)

def fetch (m : Machine) : Except Trap (Except Fault Word) :=
  if m.pc % 2 = 0 then word m.memory m.pc else return .error (.misalignedPc m.pc)

def step (m : Machine) : Except Trap Outcome := do
  match ← fetch m with
  | .error f => return m.faulted f
  | .ok w => return (← execute (← advance m) (← decode w)).settle m.pc

/-! ## Operations -/

def perform (m : Machine) : Operation → Except Trap (Machine × Answer)
  | .load image => do
    match ← loadImage m.memory image with
    | .ok memory => return ({ m with memory }, .loaded (.ok image.bytes.length))
    | .error e => return (m, .loaded (.error e))
  | .step => do
    let o ← step m
    return (o.machine, .stepped o.result o.notices)
  | .tick => return (m.tick, .done)
  | .keyDown code generation =>
    return ({ m with keypad := ← press m.keypad code generation }, .done)
  | .keyUp code generation => do
    let (accepted, keypad) ← release m.keypad code generation
    return ({ m with keypad }, .released accepted)

end Guarded

end Chip8

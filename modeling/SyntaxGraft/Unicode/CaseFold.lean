import SyntaxGraft.Unicode.CharSet
/-!
# Simple case folding

Two characters agree up to case when they have the same simple case folding.  The table lists the
classes of that relation with more than one member, in three spellings: `41-4a+20` pairs every code
point of a range with the one at a fixed distance, `100-12e/2` pairs neighbours, and `4b,6b,212a`
lists a class member by member.
-/

namespace SyntaxGraft.Unicode

/-- Code points that agree up to case. -/
inductive FoldClass where
  /-- Every code point from `first` to `last` with the one `distance` above it. -/
  | shifted (first last distance : Nat)
  /-- Neighbours `first`, `first + 1`, then the next two, up to `last`, `last + 1`. -/
  | alternating (first last : Nat)
  /-- The members of one class. -/
  | members (codes : List Nat)

namespace FoldClass

/-- The class written as one word. -/
def ofWord (word : String) : FoldClass :=
  let chars := word.toList
  let first := hexValue (chars.takeWhile (· ≠ '-'))
  let rest := (chars.dropWhile (· ≠ '-')).drop 1
  if chars.contains '+' then
    .shifted first (hexValue (rest.takeWhile (· ≠ '+'))) (hexValue (rest.dropWhile (· ≠ '+')))
  else if chars.contains '/' then
    .alternating first (hexValue (rest.takeWhile (· ≠ '/')))
  else
    .members ((word.splitOn ",").map fun code => hexValue code.toList)

/-- The classes of the relation, each as the list of its members. -/
def orbits : FoldClass → List (List Nat)
  | .shifted first last distance =>
    (List.range (last + 1 - first)).map fun i => [first + i, first + i + distance]
  | .alternating first last =>
    (List.range ((last - first) / 2 + 1)).map fun i => [first + 2 * i, first + 2 * i + 1]
  | .members codes => [codes]

end FoldClass

/-- The classes with more than one member, as they are written. -/
def foldClasses : List FoldClass :=
  (largeClasses ++ pairs).flatMap fun line => (line.splitOn " ").map FoldClass.ofWord
where
  largeClasses : List String :=
    ["4b,6b,212a 53,73,17f b5,39c,3bc c5,e5,212b 1c4,1c5,1c6 1c7,1c8,1c9 1ca,1cb,1cc 1f1,1f2,1f3",
     "345,399,3b9,1fbe 392,3b2,3d0 395,3b5,3f5 398,3b8,3d1,3f4 39a,3ba,3f0 3a0,3c0,3d6",
     "3a1,3c1,3f1 3a3,3c2,3c3 3a6,3c6,3d5 3a9,3c9,2126 412,432,1c80 414,434,1c81 41e,43e,1c82",
     "421,441,1c83 422,442,1c84,1c85 42a,44a,1c86 462,463,1c87 1c88,a64a,a64b 1e60,1e61,1e9b"]
  pairs : List String :=
    ["41-4a+20 4c-52+20 54-5a+20 c0-c4+20 c6-d6+20 d8-de+20 df,1e9e ff,178 100-12e/2 132-136/2",
     "139-147/2 14a-176/2 179-17d/2 180,243 181,253 182-184/2 186,254 187,188 189-18a+cd 18b,18c",
     "18e,1dd 18f,259 190,25b 191,192 193,260 194,263 195,1f6 196,269 197,268 198,199 19a,23d",
     "19b,a7dc 19c,26f 19d,272 19e,220 19f,275 1a0-1a4/2 1a6,280 1a7,1a8 1a9,283 1ac,1ad 1ae,288",
     "1af,1b0 1b1-1b2+d9 1b3-1b5/2 1b7,292 1b8,1b9 1bc,1bd 1bf,1f7 1cd-1db/2 1de-1ee/2 1f4,1f5",
     "1f8-21e/2 222-232/2 23a,2c65 23b,23c 23e,2c66 23f-240+2a3f 241,242 244,289 245,28c",
     "246-24e/2 250,2c6f 251,2c6d 252,2c70 25c,a7ab 261,a7ac 264,a7cb 265,a78d 266,a7aa 26a,a7ae",
     "26b,2c62 26c,a7ad 271,2c6e 27d,2c64 282,a7c5 287,a7b1 29d,a7b2 29e,a7b0 370-372/2 376,377",
     "37b-37d+82 37f,3f3 386,3ac 388-38a+25 38c,3cc 38e-38f+3f 390,1fd3 391,3b1 393-394+20",
     "396-397+20 39b,3bb 39d-39f+20 3a4-3a5+20 3a7-3a8+20 3aa-3ab+20 3b0,1fe3 3cf,3d7 3d8-3ee/2",
     "3f2,3f9 3f7,3f8 3fa,3fb 400-40f+50 410-411+20 413,433 415-41d+20 41f-420+20 423-429+20",
     "42b-42f+20 460,461 464-480/2 48a-4be/2 4c0,4cf 4c1-4cd/2 4d0-52e/2 531-556+30",
     "10a0-10c5+1c60 10c7,2d27 10cd,2d2d 10d0-10fa+bc0 10fd-10ff+bc0 13a0-13ef+97d0 13f0-13f5+8",
     "1c89,1c8a 1d79,a77d 1d7d,2c63 1d8e,a7c6 1e00-1e5e/2 1e62-1e94/2 1ea0-1efe/2 1f00-1f07+8",
     "1f10-1f15+8 1f20-1f27+8 1f30-1f37+8 1f40-1f45+8 1f51,1f59 1f53,1f5b 1f55,1f5d 1f57,1f5f",
     "1f60-1f67+8 1f70-1f71+4a 1f72-1f75+56 1f76-1f77+64 1f78-1f79+80 1f7a-1f7b+70 1f7c-1f7d+7e",
     "1f80-1f87+8 1f90-1f97+8 1fa0-1fa7+8 1fb0-1fb1+8 1fb3,1fbc 1fc3,1fcc 1fd0-1fd1+8",
     "1fe0-1fe1+8 1fe5,1fec 1ff3,1ffc 2132,214e 2160-216f+10 2183,2184 24b6-24cf+1a 2c00-2c2f+30",
     "2c60,2c61 2c67-2c6b/2 2c72,2c73 2c75,2c76 2c80-2ce2/2 2ceb-2ced/2 2cf2,2cf3 a640-a648/2",
     "a64c-a66c/2 a680-a69a/2 a722-a72e/2 a732-a76e/2 a779-a77b/2 a77e-a786/2 a78b,a78c",
     "a790-a792/2 a794,a7c4 a796-a7a8/2 a7b3,ab53 a7b4-a7c2/2 a7c7-a7c9/2 a7cc,a7cd a7d0,a7d1",
     "a7d6-a7da/2 a7f5,a7f6 fb05,fb06 ff21-ff3a+20 10400-10427+28 104b0-104d3+28 10570-1057a+27",
     "1057c-1058a+27 1058c-10592+27 10594-10595+27 10c80-10cb2+40 10d50-10d65+20 118a0-118bf+20",
     "16e40-16e5f+20 1e900-1e921+22"]

/-- The classes with more than one member. -/
def foldOrbits : List (List Nat) :=
  foldClasses.flatMap FoldClass.orbits

namespace CharSet

/-- The characters that agree with a member up to case. -/
def foldCase (set : CharSet) : CharSet :=
  set.union (.ofCodes (foldOrbits.filter fun orbit => orbit.any set.mem).flatten)

/-- The characters that agree with a member up to the case of ASCII letters. -/
def foldAscii (set : CharSet) : CharSet :=
  let letters := List.range 26
  let upper := (letters.filter fun i => set.mem (0x61 + i)).map fun i => 0x41 + i
  let lower := (letters.filter fun i => set.mem (0x41 + i)).map fun i => 0x61 + i
  set.union (.ofCodes (upper ++ lower))

/-- The set up to case, in Unicode or in ASCII, when case is ignored. -/
def fold (ignoreCase unicode : Bool) (set : CharSet) : CharSet :=
  if !ignoreCase then set else if unicode then set.foldCase else set.foldAscii

end CharSet

end SyntaxGraft.Unicode

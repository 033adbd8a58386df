import ProtocolGateway.Text.Runs

/-!
The properties of characters that decide whether a label of an international domain name is well
formed: writing direction, cursive joining and combining marks.
-/

namespace ProtocolGateway.Web

/-- Writing direction of a character, as far as domain labels tell directions apart. -/
inductive Direction where
  | left | right | arabic | arabicNumber | europeanNumber | separator | terminator | commonSeparator
  | neutral | boundary | mark | other
  deriving DecidableEq, Repr

inductive Joining where
  | none | left | right | dual | transparent
  deriving DecidableEq, Repr

/-- Runs of one direction each, by the distance from the start of the run before and a letter. -/
def directionRuns : String := "
0B 9X 5B eX 5O 2T 3O 5S 1C 1S 1C 2E aC 1O 6L 1aO 6L 1aO 4B 6X 1B 1aC 1O 1T 4O 4L 1O 2B 1O 2T 2E
2O 1L 1O 3E 1L 1O 5L 17O 1L 1fO 1L 1c1O 2L 7O eL 2O eL 5O 9L 1O 11M 70L 4O 2L 8O 1L 5O 2L 1O 1L
6eO 1L 8cM 7L 100O 5T 2M 2dR 1M 1R 1M 2R 1M 2R 1M 9R 30N 6O 2A 1T 2A 1C 1A 1O 2M bA 30M 15N aT
1N 2A 3M 1A 65M 7N 1O 1M 6A 2M 2O 1M 4A 2E aA 17M 1A 1eM 1dA 59M bA fR 2bM 9R 2O 4R 3M 1R 18M 4R
1M 9R 1M 3R 1M 7R 29M 5R 2A 2fL 1N 7L 1M 8A 2aM 18N 1M 20L 37M 1L 1M 1L 4M 8L 4M 1L 3M 7L aM 2L
1dM 1L 3aM 1L 4M 6L 6M 1L 14M 4L cT 2L 7T 1L 2M 5L 39M 2L 3M 18L 17M 2L 3M 1L bM 2L 39M 1L 4M 8L
4M 3L 12M 4L bT 8L 1M 8L 3aM 1L 2M 1L 1M 6L 6M aL bM 4L 1cM 1L 3dM 1L cM 3L 23O 6T 1O 6M 1L 3M
1L 37M 1L 1M 3L 5M 12L aM 4L 12O 7L 2M 1L 3aM 1L fM 9L dM 4L 1aM 2L 39M 2L 4M 5L 7M 1L 14M 4L
1bM 1L 48M 5L 3M 6L 59M 1L 2M bT 1L 7M 8L 62M 1L 2M 9L bM 8L 48M 2L 1bM 1L 1M 1L 1M 1O 4L 33M eL
1M 5L 1M 2L 5M 31L 8M 1L 66M 4L 1M 6L 1M 2L 2M 2L 19M 2L 4M 3L 10M 4L dM 1L 2M 2L 6M 1L fM 1L
2bfM 3L 30O 10L 60O 1L 27fX 1L 1aO 5L 72M 3L 1dM 2L 1eM eL 12M eL 34M 2L 1M 7L 8M 1L 2M bL 7T 1L
1M 3L 10O 1bM 3B 1M 1L 75M 2L 22M 1L 76M 3L 4M 2L 9M 1L 6M 7O 6L 98O 22L 17M 2L 2M 3L 38M 1L 1M
9L 1M 1L 2M 8L 6M dL 30M 1fL 31M 4L 30M 1L 1M 5L 1M 1L 5M 1L 28M 9L cM 2L 20M 4L 2M 2L 1M 3L 38M
1L 1M 2L 3M 1L 1M 3L 3aM 8L 2M 5L 95M 3L 1M dL 1M 7L 4M 1L 6M 1L 3M 2L c6M 40L 1bdO 1L 1O 3L bO
3L dO 3L dO 5L bO 3X bB 3L 1R 1O 18X 7C 1T 5O fC 1O 1aX 1B 6X 4B 6E 1L 3E 6S 2O 3L 1E aS 2O 4L
10T 21L fM 30O 2L 1O 4L 1O 2L aO 1L 1O 3L 5O 6L 1O 1L 1O 1L 1O 1L 4T 1L bO 2L 4O 5L 5O 4L 2O 10L
29O 89S 1T 1O 122L 45O 1aL 1O 91L 19O 48E 14L 4eO 1c2L 1O 153L 100O 296L 1O 69L e5O 6L 4M 3L 7O
7L 7fM 1L 60M 20O 200X 1O 4L 3O 19L 9M 4L 2O 1L 5O 2L 5O 4L 58M 2O 2L 3O 1L 5aO 1L c4O 24L 39O
3L 30O 10L 1cO 3L 32O fL cO 4L a7O 4L 63O 2L 1fO 1L 19c0O 40L 5690O 40L 13dO 3L 5fM 4O 1M aO 2L
1eM 2L 50M 2L eO 22L 66O 1L 79M 1L 3M 1L 4M 1L 19M 2L 1O 4M 4L 8T 8L 34O cL 44M aL 12M 12L dM 1L
26M 8L 19M bL 2eM 3L 30M 1L 2M 4L 2M 2L 27M 1L 43M 6L 2M 2L 2M bL 3M 1L 8M 1L 2fM 1L 33M 1L 1M
3L 2M 2L 5M 2L 1M 1L 2aM 2L 8M bL 69O 6L 75M 1L 2M 1L 4M 3L 4f2dR 1M 1R aS 1R 26A 73L 10A 16bO
12A 40L 2A 36L 7O 21A dO 3M 10O 10M 10O 20C 1O 1C 2O 1C 1O 9T 1O 2S 2O 5T 2O 5A 8fB 2O 2T 3O 5S
1C 1S 1C 2E aC 1O 6L 1aO 6L 1aO bL 7aT 2O 3T 3O 18L 101O 1L 3eO 4dL 3O 40L 2dM 83L 60M 1E 1fL
76M aL 480R 11fO 1R 20L 40R 81M fR 28M 8R a5M 6R 4eO 7R 1c0A 24M cN 10L 120N 20R 2bM 2R 15L 3bM
3R 30A 16M bA 1fR 12M 4R 7aL 1M 1L 36M fL bO 14L aM 1L 2M 2L aM 3L 31M 4L 2M 2L 7M bL 33M 3L 24M
5L 1M 9L 3dM 1L cM 2L 34M 9L aM 4L 2M 1L 5fM 3L 2M 1L 1M 2L 6M 1L 2M 3fL 5fM 1L 3M dL 10M 2L 39M
2L 3M 1L 25M 1aL b8M 8L 2M 3L 1M 1L 17M 1L 54M 6L 1M 1L 4M 2L 1M 2L eeM 6L 4M 2L 1M 2L 1bM 24L
33M 8L 2M 1L 1M 2L 1fO 20L 2bM 1L 1M 1L 2M 6L 1M 1L 65M 3L 2M 4L 1M 9L ffM 9L 1M 2L 100M 2L 1M
1L 4M 1L 90M 8L 4M 1L 20M 6L 2M 2L 28M 6L 2M 4L 8M 9L 1M 6L 2M 3L 2eM dL 1M 2L 196M eL 54M 17L
1M 7L 1M 2L 1M 4bL 31M 15L 1M 9L 40M 3L 2M 1L 1M 1L 15bM 2L bM 2L 34M 8L 2M 1L 1M 1L 92O 8T 4O
1eL 1441M 1L 6M 19L 3690M 5L 3bM 7L 418M 1L 3fM 4L 4fO 1L 1M cL 4cadM 2L 1B f60L 300M 50L 217M
3L 9B 8M 8L 2M 7L 1eM 4L 3bO 59M 3O 7bL 40O 60L 37bO 1L 39O 1L 39O 1L 39O 1L 39O 1L aE 32L 200M
37L 4M 32L 8M 1L eM 1L 16M 465L 100M 30L 5fM 71L 30M 7L 177M 12L 2cM 4L fT 1d1L 1cM 4L 310R d0M
30R 44M 7R 326A 27fO 210E bO 5L 1fO 1L 3aO 6L 3dO 39L 7aO 478L 4O 9bL 4O 137L 4eO 154L cO 29L 7O
2eL 1O 7L 8O eL 4O 9L 7O dbL 25E aL c0407B ffM ff00L"

/-- Runs of one joining type each, by the distance from the start of the run before and a letter. -/
def joiningRuns : String := "
adT 1N 252T 70N 113T 7N 107T 2dN 1T 1N 1T 2N 1T 2N 1T 1N 48T bN 1T 1N 3D 1N 1R 4D 1R 1D 1R 1D 5R
4D dN 1D 7R 1D 2T 15N eD 2T 1R 3N 1R 3D 10R 12D 26R 1D 2R 9D 1R 1D 1R 1D 2R 2N 1R 1T 7N 2T 6N 2T
2N 1T 4R 2N aD 3N 2D 1N fT 1R 1T 1D 3R 5D 4R 1D 9R 1D 1R 1D 1R 1D 2R 1T 1bN 2R 1D bR 3D fR 2D 4R
1D 1R 2D 3R 2D 6N 26T bN 19D 21T 9N 9T 1N 18T 4N 1T 9N 1T 3N 1T 5N 12R 1D 5R 2D 1R 1D aR 1D 1R
3T 3N 4D 1N 1D 4N 1R 1D 1R 2N 5R 13N 3D 1N 2D 5R 1N 9T 8D aR 3N 1R 1D 2R 2D 6R 1D fN 1T 18N 1T
20N 37T 1N 1T 1N 4T 8N 4T 1N 3T 7N aT 2N 1dT 1N 3aT 1N 4T 4N 8T 1N 14T 2N 1aT 1N 2T 2N 39T 1N 4T
2N 4T 2N 2T 3N 3T 1N 1eT 2N 3T 1N bT 2N 39T 1N 4T 5N 1T 2N 4T 1N 14T 2N 16T 6N 1T 1N 3aT 1N 2T
1N 1T 4N 8T 1N 7T 2N bT 2N 1eT 1N 3dT 1N cT 1N 32T 1N 3T 1N 37T 1N 1T 3N 5T 3N 1T 4N 7T 2N bT 2N
1dT 1N 3aT 1N 2T 1N 6T 1N 5T 2N 14T 2N 1cT 2N 39T 2N 4T 4N 8T 1N 14T 2N 1dT 1N 48T 1N 7T 3N 1T
1N 5aT 1N 2T 7N cT 8N 62T 1N 2T 9N bT 7N 49T 2N 1bT 1N 1T 1N 1T 1N 37T eN 1T 5N 1T 2N 5T bN 1T
24N 9T 1N 66T 4N 1T 6N 1T 2N 2T 2N 19T 2N 4T 3N 10T 4N dT 1N 2T 2N 6T 1N fT 1N 2bfT 3N 3b2T 3N
1dT 2N 1eT 2N 1eT 2N 40T 2N 1T 7N 8T 1N 2T bN 9T 1N 29D 1N 3T 3N 1T 1N 10D 59N cT 2D 22T 1D 1N
75T 3N 4T 2N 9T 1N 6T 3N dbT 2N 2T 1N 3aT 1N 1T 7N 1T 1N 1T 1N 2T 8N 6T aN 2T 1N 30T 1fN 31T 4N
30T 1N 1T 5N 1T 1N 5T 1N 28T 9N cT 2N 20T 4N 2T 2N 1T 3N 38T 1N 1T 2N 3T 1N 1T 3N 3aT 8N 2T 2N
98T 3N 1T dN 1T 7N 4T 1N 6T 1N 3T 2N c6T 40N 20bT 1N 2T 2N 1aT 5N 31T 5N 5T 6N 60T 21N bfeT 3N
8dT 1N 60T 20N 22aT 4N 6bT 2N 75d4T 4N 1T aN 20T 2N 50T 2N 110T 1N 3T 1N 4T 1N 19T 2N 5T 1N 13D
32L 1N 51T 2N 1aT 12N dT 1N 26T 8N 19T bN 2eT 3N 30T 1N 2T 4N 2T 2N 27T 1N 43T 6N 2T 2N 2T 2N cT
1N 8T 1N 2fT 1N 33T 1N 1T 3N 2T 2N 5T 2N 1T 1N 2aT 2N 8T 1N eeT 1N 2T 1N 4T 1N 4f30T 1N 2e1T 10N
10T 10N cfT 1N f9T 3N 201T 1N e2T 1N 95T 5N 686T 3N 1T 2N 5T 4N 28T 3N 4T 1N 80D 5R 1N 1R 1N 1R
2N 2L 1R 5D 4L 1D 5R 1D 3R 1N 2R 1T 2N 4D 4R 1N 90D 1R 1D 1R 3D 3R 1D 2R 1D 1R 2D 1R 1N 17R 4D
2N 151L 1D 21R 1D 1T 4N 183T 2N 50T 3N 30D 3R 1D 11N 1T bD 3R 1N 1bD 4R 2D cT 4N 2aD 1N 1D 2R 3N
1D 1R 2D 2R 1D 2N 1D 1R 2D 1N 4R 1D 1L 1N 35T 1N 36T fN 29T 1N 2T 2N aT 3N 31T 4N 2T 2N 7T 1N
3dT 3N 24T 5N 1T 8N 3eT 1N cT 2N 34T 9N aT 4N 2T 1N 5fT 3N 2T 1N 1T 2N 6T 1N 2T 1N 9dT 1N 3T 8N
15T 2N 39T 2N 3T 1N 25T 7N 3T 5N c3T 8N 2T 3N 1T 1N 17T 1N 54T 6N 1T 1N 4T 2N 1T 2N eeT 4N 6T 2N
1T 2N 1bT 2N 55T 8N 2T 1N 1T 2N 6aT 1N 1T 1N 2T 6N 1T 1N 65T 3N 2T 4N 1T 5N 103T 9N 1T 2N 100T
2N 1T 1N 4T 1N 90T 4N 2T 2N 4T 1N 20T aN 28T 6N 2T 4N 8T 1N 9T 6N 2T 3N 2eT dN 1T 2N 196T 7N 1T
6N 1T 1N 52T 16N 2T 7N 1T 2N 1T 2N 7aT 6N 3T 1N 1T 2N 1T 7N 1T 1N 48T 2N 3T 1N 1T 1N 15bT 2N bT
2N 34T 5N 5T 1N 1T 1N 14edT 11N 6T fN 369aT 5N 3bT 7N 418T 1N 3fT 4N 51T 1N 4cb8T 2N 1T 4N 125cT
2eN 2T 17N 220T 3N 9T 10N 2T 7N 1eT 4N 94T 3N 7bbT 37N 4T 32N 8T 1N eT 1N 16T 5N 1T fN 550T 7N
1T 11N 2T 7N 1T 2N 1T 5N 64T 1N a0T 7N 177T 1N 3dT 4N 1fcT 4N 3e0T 7N 29D 44T 8N c16b5T 1N 1eT
60N 80T f0N"

/-- Lengths of the runs outside and inside the combining marks, in turn. -/
def markRuns : String := "
300 70 113 7 107 2d 1 1 1 2 1 2 1 1 48 b 30 15 10 1 65 7 2 6 2 2 1 4 23 1 1e 1b 5b b 3a 9 9 1 18
4 1 9 1 3 1 5 2b 3 3c 8 2a 18 1 21 36 3 1 12 1 7 a 2 1d 3 38 1 1 7 2 2 2 3 9 1 a 2 1a 1 2 3 38 1
1 5 4 2 2 3 3 1 1e 2 3 1 b 3 38 1 1 8 1 3 1 3 14 2 16 6 1 3 38 1 1 7 2 2 2 3 7 3 a 2 1e 1 3b 5 3
3 1 4 9 1 28 5 37 1 1 7 1 3 1 4 7 2 b 2 1d 3 38 1 1 7 1 3 1 4 7 2 b 2 f 1 c 4 37 2 1 7 1 3 1 4 9
1 a 2 1d 3 46 1 4 6 1 1 1 8 12 2 3d 1 2 7 c 8 62 1 2 9 b 7 49 2 1b 1 1 1 1 1 4 2 31 14 1 2 5 b 1
24 9 1 64 14 17 4 4 3 1 3 2 7 3 4 d c 1 1 a 4 2bf 3 3b2 4 1c 3 1d 2 1e 2 40 20 9 1 2d 3 1 1 75 2
22 1 76 c 4 c db 5 39 a 1 1d 2 1 30 1f 31 5 2f 11 26 9 c 3 1e d 38 e 30 14 98 3 1 15 4 1 6 1 2 3
c6 40 2d0 21 bfe 3 8d 1 60 20 22a 6 69 2 75d4 4 1 a 20 2 50 2 110 1 3 1 4 1 17 5 4 1 53 2 32 12
1a 12 d 1 26 8 19 d 2c 4 2f e 24 1 43 e c 1 8 2 2d 3 32 1 1 3 2 2 5 2 1 1 29 5 5 2 ec 8 1 2 4f30
1 2e1 10 10 10 3cd 1 e2 1 95 5 686 3 1 2 5 4 28 3 4 1 a5 2 23d 4 183 2 50 3 46 b 31 4 7a 3 35 f
29 1 2 2 a 4 2d b 7 1 3d 3 24 e 10 2 2c 1 c 3 30 e 8 4 1 2 5c c 6 1 2 1 9d c 15 4 37 2 1 7 2 2 2
3 9 1 a 2 2 7 3 5 c0 12 17 1 51 14 eb 7 2 9 1b 2 52 11 6a d 65 f 100 f f5 6 1 2 2 4 1 1 1 2 8d 7
2 7 3 1 1c a 28 7 1 4 8 1 9 b 2e 10 195 8 1 8 52 16 1 e 7a 6 3 1 1 2 1 7 1 1 42 5 1 2 1 5 15b 4
9 2 1 1 30 7 3 5 14fd 1 6 f 369a 5 3b 7 418 1 1 37 7 4 51 1 b 2 4cab 2 1261 2e 2 17 21e 5 3 6 8
8 2 7 1e 4 94 3 7bb 37 4 32 8 1 e 1 16 5 1 f 550 7 1 11 2 7 1 2 1 5 64 1 a0 7 177 1 3d 4 1fc 4
3e0 7 6d 7 c17b5 f0"

def Direction.ofToken : List Char → Direction
  | ['L'] => .left
  | ['R'] => .right
  | ['A'] => .arabic
  | ['N'] => .arabicNumber
  | ['E'] => .europeanNumber
  | ['S'] => .separator
  | ['T'] => .terminator
  | ['C'] => .commonSeparator
  | ['O'] => .neutral
  | ['B'] => .boundary
  | ['M'] => .mark
  | _ => .other

def Joining.ofToken : List Char → Joining
  | ['L'] => .left
  | ['R'] => .right
  | ['D'] => .dual
  | ['T'] => .transparent
  | _ => .none

def directionTable : Text.Runs Direction := Text.Runs.tagged Direction.ofToken directionRuns

def joiningTable : Text.Runs Joining := Text.Runs.tagged Joining.ofToken joiningRuns

def markTable : Text.Runs Bool := Text.Runs.alternating markRuns

def direction (c : Char) : Direction := directionTable.valueAt c.toNat .other

def joining (c : Char) : Joining := joiningTable.valueAt c.toNat .none

def isMark (c : Char) : Bool := markTable.valueAt c.toNat false

end ProtocolGateway.Web

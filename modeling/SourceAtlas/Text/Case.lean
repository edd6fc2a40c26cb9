import SourceAtlas.Text.Classes

/-!
Case maps for whole texts. A letter may map to several (the sharp s in upper case), and the capital
sigma becomes a final sigma at the end of a word; both follow version 14 of the character database.
-/
namespace SourceAtlas.Text

/-- Every `stride`-th code point from `first` on, `extra` of them after the first, moves up by `up`
and down by `down`. -/
structure CaseRun where
  first : Nat
  extra : Nat
  stride : Nat
  up : Nat
  down : Nat

namespace CaseRun

/-- Runs are packed as five numbers: distance from the first point of the run before, number of
further points, stride, whether the move is downward, and its size. -/
def unpack (last : Nat) : List Nat → List CaseRun
  | gap :: extra :: stride :: negative :: size :: rest =>
      { first := last + gap, extra := extra, stride := stride
        up := if negative = 0 then size else 0
        down := if negative = 0 then 0 else size } :: unpack (last + gap) rest
  | _ => []

def ofPacked (text : String) : Array CaseRun := (unpack 0 (decimals text)).toArray

def last (run : CaseRun) : Nat := run.first + run.extra * run.stride

def imageOf? (run : CaseRun) (n : Nat) : Option Nat :=
  if run.first ≤ n && n ≤ run.last && (n - run.first) % run.stride == 0
  then some (n + run.up - run.down) else none

/-- The image of `n` under the runs; runs may interleave, so all of them are asked. -/
def image (runs : Array CaseRun) (n : Nat) : Nat :=
  (runs.findSome? fun run => run.imageOf? n).getD n

end CaseRun

/-- Characters with an image of several characters, each followed by the number of characters of its
image and the image. -/
def unpackWide : List Nat → List (Nat × List Nat)
  | c :: 2 :: a :: b :: rest => (c, [a, b]) :: unpackWide rest
  | c :: 3 :: a :: b :: d :: rest => (c, [a, b, d]) :: unpackWide rest
  | _ => []

/-- A case map: the wide images first, then the runs. -/
structure CaseMap where
  wide : List (Nat × List Nat)
  runs : Array CaseRun

def CaseMap.image (map : CaseMap) (c : Char) : List Char :=
  match map.wide.lookup c.toNat with
  | some points => points.map Char.ofNat
  | none => [Char.ofNat (CaseRun.image map.runs c.toNat)]

def lowerMap : CaseMap where
  wide := unpackWide (decimals
    "304 2 105 775")
  runs := CaseRun.ofPacked
    "65 25 1 0 32 127 22 1 0 32 24 6 1 0 32 40 23 2 0 1 50 2 2 0 1 7 7 2 0 1 17 22 2 0 1 46 0 1 1 121
    1 2 2 0 1 8 0 1 0 210 1 1 2 0 1 4 0 1 0 206 1 0 1 0 1 2 1 1 0 205 2 0 1 0 1 3 0 1 0 79 1 0 1 0
    202 1 0 1 0 203 1 0 1 0 1 2 0 1 0 205 1 0 1 0 207 2 0 1 0 211 1 0 1 0 209 1 0 1 0 1 4 0 1 0 211
    1 0 1 0 213 2 0 1 0 214 1 2 2 0 1 6 0 1 0 218 1 0 1 0 1 2 0 1 0 218 3 0 1 0 1 2 0 1 0 218 1 0 1
    0 1 2 1 1 0 217 2 1 2 0 1 4 0 1 0 219 1 0 1 0 1 4 0 1 0 1 8 0 1 0 2 1 0 1 0 1 2 0 1 0 2 1 0 1 0
    1 2 0 1 0 2 1 8 2 0 1 19 8 2 0 1 19 0 1 0 2 1 1 2 0 1 4 0 1 1 97 1 0 1 1 56 1 19 2 0 1 40 0 1 1
    130 2 8 2 0 1 24 0 1 0 10795 1 0 1 0 1 2 0 1 1 163 1 0 1 0 10792 3 0 1 0 1 2 0 1 1 195 1 0 1 0
    69 1 0 1 0 71 1 4 2 0 1 298 1 2 0 1 6 0 1 0 1 9 0 1 0 116 7 0 1 0 38 2 2 1 0 37 4 0 1 0 64 2 1 1
    0 63 3 16 1 0 32 18 8 1 0 32 44 0 1 0 8 9 11 2 0 1 28 0 1 1 60 3 0 1 0 1 2 0 1 1 7 1 0 1 0 1 3 2
    1 1 130 3 15 1 0 80 16 31 1 0 32 80 16 2 0 1 42 26 2 0 1 54 0 1 0 15 1 6 2 0 1 15 47 2 0 1 97 37
    1 0 48 2927 37 1 0 7264 39 0 1 0 7264 6 0 1 0 7264 723 79 1 0 38864 80 5 1 0 8 2208 42 1 1 3008
    45 2 1 1 3008 323 74 2 0 1 158 0 1 1 7615 2 47 2 0 1 104 7 1 1 8 16 5 1 1 8 16 7 1 1 8 16 7 1 1
    8 16 5 1 1 8 17 3 2 1 8 15 7 1 1 8 32 7 1 1 8 16 7 1 1 8 16 7 1 1 8 16 1 1 1 8 2 1 1 1 74 2 0 1
    1 9 12 3 1 1 86 4 0 1 1 9 12 1 1 1 8 2 1 1 1 100 14 1 1 1 8 2 1 1 1 112 2 0 1 1 7 12 1 1 1 128 2
    1 1 1 126 2 0 1 1 9 298 0 1 1 7517 4 0 1 1 8383 1 0 1 1 8262 7 0 1 0 28 46 15 1 0 16 35 0 1 0 1
    819 25 1 0 26 1866 47 1 0 48 96 0 1 0 1 2 0 1 1 10743 1 0 1 1 3814 1 0 1 1 10727 3 2 2 0 1 6 0 1
    1 10780 1 0 1 1 10749 1 0 1 1 10783 1 0 1 1 10782 2 0 1 0 1 3 0 1 0 1 9 1 1 1 10815 2 49 2 0 1
    107 1 2 0 1 7 0 1 0 1 31054 22 2 0 1 64 13 2 0 1 162 6 2 0 1 16 30 2 0 1 71 1 2 0 1 4 0 1 1
    35332 1 4 2 0 1 13 0 1 0 1 2 0 1 1 42280 3 1 2 0 1 6 9 2 0 1 20 0 1 1 42308 1 0 1 1 42319 1 0 1
    1 42315 1 0 1 1 42305 1 0 1 1 42308 2 0 1 1 42258 1 0 1 1 42282 1 0 1 1 42261 1 0 1 0 928 1 7 2
    0 1 16 0 1 1 48 1 0 1 1 42307 1 0 1 1 35384 1 1 2 0 1 9 0 1 0 1 6 1 2 0 1 31 0 1 0 1 22316 25 1
    0 32 1247 39 1 0 40 176 35 1 0 40 192 10 1 0 39 12 14 1 0 39 16 6 1 0 39 8 1 1 0 39 1772 50 1 0
    64 3104 31 1 0 32 21920 31 1 0 32 31424 33 1 0 34"

def upperMap : CaseMap where
  wide := unpackWide (decimals
    "223 2 83 83 329 2 700 78 496 2 74 780 912 3 921 776 769 944 3 933 776 769 1415 2 1333 1362 7830
    2 72 817 7831 2 84 776 7832 2 87 778 7833 2 89 778 7834 2 65 702 8016 2 933 787 8018 3 933 787
    768 8020 3 933 787 769 8022 3 933 787 834 8064 2 7944 921 8065 2 7945 921 8066 2 7946 921 8067 2
    7947 921 8068 2 7948 921 8069 2 7949 921 8070 2 7950 921 8071 2 7951 921 8072 2 7944 921 8073 2
    7945 921 8074 2 7946 921 8075 2 7947 921 8076 2 7948 921 8077 2 7949 921 8078 2 7950 921 8079 2
    7951 921 8080 2 7976 921 8081 2 7977 921 8082 2 7978 921 8083 2 7979 921 8084 2 7980 921 8085 2
    7981 921 8086 2 7982 921 8087 2 7983 921 8088 2 7976 921 8089 2 7977 921 8090 2 7978 921 8091 2
    7979 921 8092 2 7980 921 8093 2 7981 921 8094 2 7982 921 8095 2 7983 921 8096 2 8040 921 8097 2
    8041 921 8098 2 8042 921 8099 2 8043 921 8100 2 8044 921 8101 2 8045 921 8102 2 8046 921 8103 2
    8047 921 8104 2 8040 921 8105 2 8041 921 8106 2 8042 921 8107 2 8043 921 8108 2 8044 921 8109 2
    8045 921 8110 2 8046 921 8111 2 8047 921 8114 2 8122 921 8115 2 913 921 8116 2 902 921 8118 2
    913 834 8119 3 913 834 921 8124 2 913 921 8130 2 8138 921 8131 2 919 921 8132 2 905 921 8134 2
    919 834 8135 3 919 834 921 8140 2 919 921 8146 3 921 776 768 8147 3 921 776 769 8150 2 921 834
    8151 3 921 776 834 8162 3 933 776 768 8163 3 933 776 769 8164 2 929 787 8166 2 933 834 8167 3
    933 776 834 8178 2 8186 921 8179 2 937 921 8180 2 911 921 8182 2 937 834 8183 3 937 834 921 8188
    2 937 921 64256 2 70 70 64257 2 70 73 64258 2 70 76 64259 3 70 70 73 64260 3 70 70 76 64261 2 83
    84 64262 2 83 84 64275 2 1348 1350 64276 2 1348 1333 64277 2 1348 1339 64278 2 1358 1350 64279 2
    1348 1341")
  runs := CaseRun.ofPacked
    "97 25 1 1 32 84 0 1 0 743 43 22 1 1 32 24 6 1 1 32 7 0 1 0 121 2 23 2 1 1 48 0 1 1 232 2 2 2 1 1
    7 7 2 1 1 17 22 2 1 1 47 2 2 1 1 5 0 1 1 300 1 0 1 0 195 3 1 2 1 1 5 0 1 1 1 4 0 1 1 1 6 0 1 1 1
    3 0 1 0 97 4 0 1 1 1 1 0 1 0 163 4 0 1 0 130 3 2 2 1 1 7 0 1 1 1 5 0 1 1 1 3 0 1 1 1 4 1 2 1 1 5
    0 1 1 1 4 0 1 1 1 2 0 1 0 56 6 0 1 1 1 1 0 1 1 2 2 0 1 1 1 1 0 1 1 2 2 0 1 1 1 1 0 1 1 2 2 7 2 1
    1 15 0 1 1 79 2 8 2 1 1 19 0 1 1 1 1 0 1 1 2 2 0 1 1 1 4 19 2 1 1 42 8 2 1 1 25 0 1 1 1 3 1 1 0
    10815 3 0 1 1 1 5 4 2 1 1 9 0 1 0 10783 1 0 1 0 10780 1 0 1 0 10782 1 0 1 1 210 1 0 1 1 206 2 1
    1 1 205 3 0 1 1 202 2 0 1 1 203 1 0 1 0 42319 4 0 1 1 205 1 0 1 0 42315 2 0 1 1 207 2 0 1 0
    42280 1 0 1 0 42308 2 0 1 1 209 1 0 1 1 211 1 0 1 0 42308 1 0 1 0 10743 1 0 1 0 42305 3 0 1 1
    211 2 0 1 0 10749 1 0 1 1 213 3 0 1 1 214 8 0 1 0 10727 3 0 1 1 218 2 0 1 0 42307 1 0 1 1 218 4
    0 1 0 42282 1 0 1 1 218 1 0 1 1 69 1 1 1 1 217 2 0 1 1 71 6 0 1 1 219 11 0 1 0 42261 1 0 1 0
    42258 167 0 1 0 84 44 1 2 1 1 6 0 1 1 1 4 2 1 0 130 49 0 1 1 38 1 2 1 1 37 4 16 1 1 32 17 0 1 1
    31 1 8 1 1 32 9 0 1 1 64 1 1 1 1 63 3 0 1 1 62 1 0 1 1 57 4 0 1 1 47 1 0 1 1 54 1 0 1 1 8 2 11 2
    1 1 23 0 1 1 86 1 0 1 1 80 1 0 1 0 7 1 0 1 1 116 2 0 1 1 96 3 0 1 1 1 3 0 1 1 1 53 31 1 1 32 32
    15 1 1 80 17 16 2 1 1 42 26 2 1 1 55 6 2 1 1 13 0 1 1 15 2 47 2 1 1 144 37 1 1 48 2927 42 1 0
    3008 45 2 1 0 3008 763 5 1 1 8 2184 0 1 1 6254 1 0 1 1 6253 1 0 1 1 6244 1 1 1 1 6242 2 0 1 1
    6243 1 0 1 1 6236 1 0 1 1 6181 1 0 1 0 35266 241 0 1 0 35332 4 0 1 0 3814 17 0 1 0 35384 115 74
    2 1 1 154 0 1 1 59 6 47 2 1 1 95 7 1 0 8 16 5 1 0 8 16 7 1 0 8 16 7 1 0 8 16 5 1 0 8 17 3 2 0 8
    15 7 1 0 8 16 1 1 0 74 2 3 1 0 86 4 1 1 0 100 2 1 1 0 128 2 1 1 0 112 2 1 1 0 126 52 1 1 0 8 14
    0 1 1 7205 18 1 1 0 8 16 1 1 0 8 5 0 1 0 7 361 0 1 1 28 34 15 1 1 16 20 0 1 1 1 844 25 1 1 26
    1888 47 1 1 48 49 0 1 1 1 4 0 1 1 10795 1 0 1 1 10792 2 2 2 1 1 11 0 1 1 1 3 0 1 1 1 11 49 2 1 1
    107 1 2 1 1 7 0 1 1 1 13 37 1 1 7264 39 0 1 1 7264 6 0 1 1 7264 30996 22 2 1 1 64 13 2 1 1 162 6
    2 1 1 16 30 2 1 1 71 1 2 1 1 5 4 2 1 1 13 0 1 1 1 5 1 2 1 1 3 0 1 0 48 3 9 2 1 1 30 7 2 1 1 19 1
    2 1 1 9 0 1 1 1 6 1 2 1 1 31 0 1 1 1 861 0 1 1 928 29 79 1 1 38864 21457 25 1 1 32 1255 39 1 1
    40 176 35 1 1 40 191 10 1 1 39 12 14 1 1 39 16 6 1 1 39 8 1 1 1 39 1797 50 1 1 64 3072 31 1 1 32
    21920 31 1 1 32 31426 33 1 1 34"

def titleMap : CaseMap where
  wide := unpackWide (decimals
    "223 2 83 115 329 2 700 78 496 2 74 780 912 3 921 776 769 944 3 933 776 769 1415 2 1333 1410 7830
    2 72 817 7831 2 84 776 7832 2 87 778 7833 2 89 778 7834 2 65 702 8016 2 933 787 8018 3 933 787
    768 8020 3 933 787 769 8022 3 933 787 834 8114 2 8122 837 8116 2 902 837 8118 2 913 834 8119 3
    913 834 837 8130 2 8138 837 8132 2 905 837 8134 2 919 834 8135 3 919 834 837 8146 3 921 776 768
    8147 3 921 776 769 8150 2 921 834 8151 3 921 776 834 8162 3 933 776 768 8163 3 933 776 769 8164
    2 929 787 8166 2 933 834 8167 3 933 776 834 8178 2 8186 837 8180 2 911 837 8182 2 937 834 8183 3
    937 834 837 64256 2 70 102 64257 2 70 105 64258 2 70 108 64259 3 70 102 105 64260 3 70 102 108
    64261 2 83 116 64262 2 83 116 64275 2 1348 1398 64276 2 1348 1381 64277 2 1348 1387 64278 2 1358
    1398 64279 2 1348 1389")
  runs := CaseRun.ofPacked
    "97 25 1 1 32 84 0 1 0 743 43 22 1 1 32 24 6 1 1 32 7 0 1 0 121 2 23 2 1 1 48 0 1 1 232 2 2 2 1 1
    7 7 2 1 1 17 22 2 1 1 47 2 2 1 1 5 0 1 1 300 1 0 1 0 195 3 1 2 1 1 5 0 1 1 1 4 0 1 1 1 6 0 1 1 1
    3 0 1 0 97 4 0 1 1 1 1 0 1 0 163 4 0 1 0 130 3 2 2 1 1 7 0 1 1 1 5 0 1 1 1 3 0 1 1 1 4 1 2 1 1 5
    0 1 1 1 4 0 1 1 1 2 0 1 0 56 5 0 1 0 1 2 0 1 1 1 1 0 1 0 1 2 0 1 1 1 1 0 1 0 1 2 8 2 1 1 17 0 1
    1 79 2 8 2 1 1 18 0 1 0 1 2 1 2 1 1 6 19 2 1 1 42 8 2 1 1 25 0 1 1 1 3 1 1 0 10815 3 0 1 1 1 5 4
    2 1 1 9 0 1 0 10783 1 0 1 0 10780 1 0 1 0 10782 1 0 1 1 210 1 0 1 1 206 2 1 1 1 205 3 0 1 1 202
    2 0 1 1 203 1 0 1 0 42319 4 0 1 1 205 1 0 1 0 42315 2 0 1 1 207 2 0 1 0 42280 1 0 1 0 42308 2 0
    1 1 209 1 0 1 1 211 1 0 1 0 42308 1 0 1 0 10743 1 0 1 0 42305 3 0 1 1 211 2 0 1 0 10749 1 0 1 1
    213 3 0 1 1 214 8 0 1 0 10727 3 0 1 1 218 2 0 1 0 42307 1 0 1 1 218 4 0 1 0 42282 1 0 1 1 218 1
    0 1 1 69 1 1 1 1 217 2 0 1 1 71 6 0 1 1 219 11 0 1 0 42261 1 0 1 0 42258 167 0 1 0 84 44 1 2 1 1
    6 0 1 1 1 4 2 1 0 130 49 0 1 1 38 1 2 1 1 37 4 16 1 1 32 17 0 1 1 31 1 8 1 1 32 9 0 1 1 64 1 1 1
    1 63 3 0 1 1 62 1 0 1 1 57 4 0 1 1 47 1 0 1 1 54 1 0 1 1 8 2 11 2 1 1 23 0 1 1 86 1 0 1 1 80 1 0
    1 0 7 1 0 1 1 116 2 0 1 1 96 3 0 1 1 1 3 0 1 1 1 53 31 1 1 32 32 15 1 1 80 17 16 2 1 1 42 26 2 1
    1 55 6 2 1 1 13 0 1 1 15 2 47 2 1 1 144 37 1 1 48 3735 5 1 1 8 2184 0 1 1 6254 1 0 1 1 6253 1 0
    1 1 6244 1 1 1 1 6242 2 0 1 1 6243 1 0 1 1 6236 1 0 1 1 6181 1 0 1 0 35266 241 0 1 0 35332 4 0 1
    0 3814 17 0 1 0 35384 115 74 2 1 1 154 0 1 1 59 6 47 2 1 1 95 7 1 0 8 16 5 1 0 8 16 7 1 0 8 16 7
    1 0 8 16 5 1 0 8 17 3 2 0 8 15 7 1 0 8 16 1 1 0 74 2 3 1 0 86 4 1 1 0 100 2 1 1 0 128 2 1 1 0
    112 2 1 1 0 126 4 7 1 0 8 16 7 1 0 8 16 7 1 0 8 16 1 1 0 8 3 0 1 0 9 11 0 1 1 7205 5 0 1 0 9 13
    1 1 0 8 16 1 1 0 8 5 0 1 0 7 14 0 1 0 9 347 0 1 1 28 34 15 1 1 16 20 0 1 1 1 844 25 1 1 26 1888
    47 1 1 48 49 0 1 1 1 4 0 1 1 10795 1 0 1 1 10792 2 2 2 1 1 11 0 1 1 1 3 0 1 1 1 11 49 2 1 1 107
    1 2 1 1 7 0 1 1 1 13 37 1 1 7264 39 0 1 1 7264 6 0 1 1 7264 30996 22 2 1 1 64 13 2 1 1 162 6 2 1
    1 16 30 2 1 1 71 1 2 1 1 5 4 2 1 1 13 0 1 1 1 5 1 2 1 1 3 0 1 0 48 3 9 2 1 1 30 7 2 1 1 19 1 2 1
    1 9 0 1 1 1 6 1 2 1 1 31 0 1 1 1 861 0 1 1 928 29 79 1 1 38864 21457 25 1 1 32 1255 39 1 1 40
    176 35 1 1 40 191 10 1 1 39 12 14 1 1 39 16 6 1 1 39 8 1 1 1 39 1797 50 1 1 64 3072 31 1 1 32
    21920 31 1 1 32 31426 33 1 1 34"

def cased : CodeSet := .ofPacked
  "65 25 7 25 48 0 11 0 5 0 6 22 2 30 2 194 2 3 5 207 2 35 8 1 31 4 97 0 43 3 3 1 3 3 2 0 7 0 2 2 2
  0 2 19 2 82 2 138 9 165 2 37 10 40 2840 37 2 0 6 0 3 42 3 2 673 85 3 5 2179 8 8 42 3 2 65 191 65
  277 3 5 3 37 3 5 3 7 2 0 2 0 2 0 2 30 3 52 2 6 2 0 4 2 2 6 4 3 3 5 5 12 6 2 2 6 117 0 14 0 17 12
  102 0 5 0 3 9 2 0 4 4 7 0 2 0 2 0 2 3 2 5 5 0 3 3 6 4 5 0 18 31 4 1 818 51 1815 228 7 3 4 1 13
  37 2 0 6 0 30995 45 19 29 133 101 4 3 2 58 6 1 2 0 2 4 28 1 2 2 822 42 2 12 8 79 20289 6 13 4
  1034 25 7 25 1190 79 97 35 5 35 117 10 2 14 2 6 2 1 2 10 2 14 2 6 2 1 452 0 3 2 2 41 2 8 1222 50
  14 50 2990 63 21857 63 25985 84 2 70 2 1 3 0 3 1 3 3 2 11 2 0 2 6 2 64 2 3 3 7 2 6 2 27 2 3 2 4
  2 0 4 6 2 339 3 24 2 24 2 30 2 24 2 30 2 24 2 30 2 24 2 30 2 24 2 7 1845 9 2 19 2530 67 2029 25
  7 25 7 25"

/-- Characters that do not interrupt a word for the final sigma. -/
def caseless : CodeSet := .ofPacked
  "39 0 7 0 12 0 36 0 2 0 72 0 5 0 2 0 5 0 3 1 504 191 5 1 5 0 10 1 2 0 252 6 208 0 6 0 50 44 2 0 2
  1 2 1 2 0 45 0 12 5 11 10 2 0 36 0 11 20 17 0 102 7 2 9 2 3 34 0 2 0 31 26 92 10 59 10 5 0 3 0
  25 23 44 2 45 0 8 1 7 7 42 57 56 0 2 0 5 7 5 0 4 6 11 1 14 0 16 0 59 0 5 3 9 0 21 1 27 0 3 1 58
  0 5 1 5 1 3 2 4 0 31 1 4 0 12 1 58 0 5 4 2 1 5 0 21 1 23 5 2 0 59 0 3 0 2 3 9 0 8 1 12 1 31 0 62
  0 13 0 51 0 4 0 56 0 2 2 6 2 2 3 8 1 12 1 30 0 59 0 3 0 7 0 6 1 21 1 29 1 58 1 5 3 9 0 21 1 30 0
  73 0 8 2 2 0 91 0 3 6 12 8 99 0 3 8 10 0 2 5 75 1 28 0 2 0 2 0 56 13 2 4 2 1 6 10 2 35 10 0 103
  3 2 5 2 1 3 1 26 1 5 2 17 3 14 0 3 1 7 0 16 0 95 0 609 2 947 2 30 1 31 1 31 1 65 1 2 6 9 0 3 10
  4 0 6 0 46 4 52 0 66 1 35 0 119 2 5 1 10 0 7 2 220 1 3 0 59 0 2 6 2 0 2 0 3 7 7 9 3 0 40 0 9 30
  50 3 49 0 2 4 2 0 6 0 41 8 13 1 33 3 3 1 2 2 57 0 2 1 4 0 2 2 59 7 3 1 65 5 83 2 2 12 2 6 5 0 7
  0 4 1 51 62 14 0 35 100 446 0 2 2 12 2 14 2 14 2 14 1 13 4 9 1 11 0 3 0 3 4 50 4 2 9 2 0 14 0 17
  12 52 32 2956 1 114 2 126 0 16 0 97 31 48 0 470 0 37 3 4 4 6 0 94 5 94 2 28439 0 1251 5 271 0 99
  3 2 9 2 0 29 3 81 1 15 33 79 0 24 2 104 2 4 1 9 0 4 0 5 0 26 1 6 0 152 1 27 17 14 0 39 7 26 10
  47 2 49 0 3 3 3 1 18 0 22 1 67 5 3 1 3 1 13 0 9 0 36 0 12 0 52 0 2 2 3 1 6 1 2 0 28 0 15 1 6 1 2
  0 101 4 10 2 122 0 3 0 5 0 20273 0 148 16 574 15 4 0 13 15 35 0 3 0 170 0 8 0 7 0 12 0 36 0 2 0
  48 0 46 1 68 0 22 2 514 0 227 0 150 4 1030 5 2 41 2 8 583 2 2 1 6 3 41 2 5 0 166 1 574 3 388 1
  154 10 50 3 124 0 55 14 42 0 3 1 11 2 50 3 3 1 3 0 5 0 11 0 51 2 37 4 2 7 63 0 13 1 53 8 11 3 3
  0 96 2 3 0 2 1 7 0 161 0 4 7 22 1 58 1 4 0 38 6 4 4 196 7 3 2 2 0 24 0 85 5 2 0 5 1 2 1 239 3 7
  1 2 1 28 1 86 7 3 0 2 1 107 0 2 0 3 5 2 0 102 2 3 3 2 4 260 8 2 1 257 1 2 0 5 0 145 3 3 1 5 0 33
  9 41 5 3 3 9 0 10 5 3 2 47 12 2 1 407 6 2 5 2 0 83 21 3 6 2 1 2 1 123 5 4 0 2 1 2 6 2 0 73 1 4 0
  2 0 348 1 5436 8 14008 4 60 6 10 3 1036 0 64 16 65 1 2 1 16396 3 2 6 2 1 3231 1 2 3 4701 45 3 22
  545 2 10 15 3 6 31 3 149 2 1980 54 5 49 9 0 15 0 23 4 2 14 1361 6 2 16 3 6 2 1 2 4 262 13 369 0
  62 3 1505 6 110 7 2736 4 789506 0 31 95 129 239"

def isCased (c : Char) : Bool :=
  if c.toNat < 128 then c.isAlpha else cased.contains c

def meetsCased : List Char → Bool
  | [] => false
  | c :: rest => if caseless.contains c then meetsCased rest else isCased c

def lowerChar (c : Char) : List Char :=
  if c.toNat < 128 then [c.toLower] else lowerMap.image c

def capitalSigma : Char := Char.ofNat 0x3a3

/-- A capital sigma after a cased character and not before one is final; the characters before it
come nearest first. -/
def lowerSigma (before rest : List Char) : Char :=
  Char.ofNat (if meetsCased before && !meetsCased rest then 0x3c2 else 0x3c3)

def lowerFrom (before : List Char) : List Char → List Char
  | [] => []
  | c :: rest =>
      (if c = capitalSigma then [lowerSigma before rest] else lowerChar c) ++
        lowerFrom (c :: before) rest

def lowerChars (text : List Char) : List Char :=
  if text.contains capitalSigma then lowerFrom [] text else text.flatMap lowerChar

def lower (text : String) : String := .ofList (lowerChars text.toList)

def upperChars (text : List Char) : List Char :=
  text.flatMap fun c => if c.toNat < 128 then [c.toUpper] else upperMap.image c

def upper (text : String) : String := .ofList (upperChars text.toList)

/-- Title case: a character after a cased one takes its lower-case image, any other its image at the
start of a word. -/
def titleFrom (before : List Char) : List Char → List Char
  | [] => []
  | c :: rest =>
      let inWord := match before with
        | [] => false
        | b :: _ => isCased b
      let image :=
        if inWord then
          if c = capitalSigma then [lowerSigma before rest] else lowerMap.image c
        else titleMap.image c
      image ++ titleFrom (c :: before) rest

def title (text : String) : String := .ofList (titleFrom [] text.toList)

end SourceAtlas.Text

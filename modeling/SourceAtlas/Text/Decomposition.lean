import SourceAtlas.Text.CodeSet

/-!
Full compatibility decompositions, combining classes and the pairs that compose, by version 14 of
the Unicode character database. The syllables of Hangul follow from arithmetic and are in no table.
-/
namespace SourceAtlas.Text

/-- `extra` code points after `first` decompose like it, their images counting up with them. -/
structure DecompositionRun where
  first : Nat
  extra : Nat
  image : List Nat
  filled : image ≠ []

namespace DecompositionRun

/-- Runs are packed as the distance from the first point of the run before, the number of further
points, the length of the image and the image; `fuel` bounds their number. -/
def unpack (fuel last : Nat) : List Nat → List DecompositionRun
  | gap :: extra :: count :: next :: rest =>
      match fuel with
      | 0 => []
      | fuel + 1 =>
          { first := last + gap, extra := extra, image := next :: rest.take (count - 1)
            filled := List.cons_ne_nil _ _ } ::
            unpack fuel (last + gap) (rest.drop (count - 1))
  | _ => []

def ofPacked (text : String) : Array DecompositionRun :=
  let numbers := decimals text
  (unpack numbers.length 0 numbers).toArray

def apply (run : DecompositionRun) (n : Nat) : List Nat :=
  if run.extra = 0 then run.image else run.image.map (· + (n - run.first))

theorem apply_ne_nil (run : DecompositionRun) (n : Nat) : run.apply n ≠ [] := by
  unfold apply
  split
  · exact run.filled
  · exact fun none => run.filled (List.map_eq_nil_iff.mp none)

end DecompositionRun

def decompositions : Array DecompositionRun := DecompositionRun.ofPacked
  "160 0 1 32 8 0 2 32 776 2 0 1 97 5 0 2 32 772 3 1 1 50 2 0 2 32 769 1 0 1 956 3 0 2 32 807 1 0 1
  49 1 0 1 111 2 0 3 49 8260 52 1 0 3 49 8260 50 1 0 3 51 8260 52 2 0 2 65 768 1 0 2 65 769 1 0 2
  65 770 1 0 2 65 771 1 0 2 65 776 1 0 2 65 778 2 0 2 67 807 1 0 2 69 768 1 0 2 69 769 1 0 2 69
  770 1 0 2 69 776 1 0 2 73 768 1 0 2 73 769 1 0 2 73 770 1 0 2 73 776 2 0 2 78 771 1 0 2 79 768 1
  0 2 79 769 1 0 2 79 770 1 0 2 79 771 1 0 2 79 776 3 0 2 85 768 1 0 2 85 769 1 0 2 85 770 1 0 2
  85 776 1 0 2 89 769 3 0 2 97 768 1 0 2 97 769 1 0 2 97 770 1 0 2 97 771 1 0 2 97 776 1 0 2 97
  778 2 0 2 99 807 1 0 2 101 768 1 0 2 101 769 1 0 2 101 770 1 0 2 101 776 1 0 2 105 768 1 0 2 105
  769 1 0 2 105 770 1 0 2 105 776 2 0 2 110 771 1 0 2 111 768 1 0 2 111 769 1 0 2 111 770 1 0 2
  111 771 1 0 2 111 776 3 0 2 117 768 1 0 2 117 769 1 0 2 117 770 1 0 2 117 776 1 0 2 121 769 2 0
  2 121 776 1 0 2 65 772 1 0 2 97 772 1 0 2 65 774 1 0 2 97 774 1 0 2 65 808 1 0 2 97 808 1 0 2 67
  769 1 0 2 99 769 1 0 2 67 770 1 0 2 99 770 1 0 2 67 775 1 0 2 99 775 1 0 2 67 780 1 0 2 99 780 1
  0 2 68 780 1 0 2 100 780 3 0 2 69 772 1 0 2 101 772 1 0 2 69 774 1 0 2 101 774 1 0 2 69 775 1 0
  2 101 775 1 0 2 69 808 1 0 2 101 808 1 0 2 69 780 1 0 2 101 780 1 0 2 71 770 1 0 2 103 770 1 0 2
  71 774 1 0 2 103 774 1 0 2 71 775 1 0 2 103 775 1 0 2 71 807 1 0 2 103 807 1 0 2 72 770 1 0 2
  104 770 3 0 2 73 771 1 0 2 105 771 1 0 2 73 772 1 0 2 105 772 1 0 2 73 774 1 0 2 105 774 1 0 2
  73 808 1 0 2 105 808 1 0 2 73 775 2 0 2 73 74 1 0 2 105 106 1 0 2 74 770 1 0 2 106 770 1 0 2 75
  807 1 0 2 107 807 2 0 2 76 769 1 0 2 108 769 1 0 2 76 807 1 0 2 108 807 1 0 2 76 780 1 0 2 108
  780 1 0 2 76 183 1 0 2 108 183 3 0 2 78 769 1 0 2 110 769 1 0 2 78 807 1 0 2 110 807 1 0 2 78
  780 1 0 2 110 780 1 0 2 700 110 3 0 2 79 772 1 0 2 111 772 1 0 2 79 774 1 0 2 111 774 1 0 2 79
  779 1 0 2 111 779 3 0 2 82 769 1 0 2 114 769 1 0 2 82 807 1 0 2 114 807 1 0 2 82 780 1 0 2 114
  780 1 0 2 83 769 1 0 2 115 769 1 0 2 83 770 1 0 2 115 770 1 0 2 83 807 1 0 2 115 807 1 0 2 83
  780 1 0 2 115 780 1 0 2 84 807 1 0 2 116 807 1 0 2 84 780 1 0 2 116 780 3 0 2 85 771 1 0 2 117
  771 1 0 2 85 772 1 0 2 117 772 1 0 2 85 774 1 0 2 117 774 1 0 2 85 778 1 0 2 117 778 1 0 2 85
  779 1 0 2 117 779 1 0 2 85 808 1 0 2 117 808 1 0 2 87 770 1 0 2 119 770 1 0 2 89 770 1 0 2 121
  770 1 0 2 89 776 1 0 2 90 769 1 0 2 122 769 1 0 2 90 775 1 0 2 122 775 1 0 2 90 780 1 0 2 122
  780 1 0 1 115 33 0 2 79 795 1 0 2 111 795 14 0 2 85 795 1 0 2 117 795 20 0 3 68 90 780 1 0 3 68
  122 780 1 0 3 100 122 780 1 0 2 76 74 1 0 2 76 106 1 0 2 108 106 1 0 2 78 74 1 0 2 78 106 1 0 2
  110 106 1 0 2 65 780 1 0 2 97 780 1 0 2 73 780 1 0 2 105 780 1 0 2 79 780 1 0 2 111 780 1 0 2 85
  780 1 0 2 117 780 1 0 3 85 776 772 1 0 3 117 776 772 1 0 3 85 776 769 1 0 3 117 776 769 1 0 3 85
  776 780 1 0 3 117 776 780 1 0 3 85 776 768 1 0 3 117 776 768 2 0 3 65 776 772 1 0 3 97 776 772 1
  0 3 65 775 772 1 0 3 97 775 772 1 0 2 198 772 1 0 2 230 772 3 0 2 71 780 1 0 2 103 780 1 0 2 75
  780 1 0 2 107 780 1 0 2 79 808 1 0 2 111 808 1 0 3 79 808 772 1 0 3 111 808 772 1 0 2 439 780 1
  0 2 658 780 1 0 2 106 780 1 0 2 68 90 1 0 2 68 122 1 0 2 100 122 1 0 2 71 769 1 0 2 103 769 3 0
  2 78 768 1 0 2 110 768 1 0 3 65 778 769 1 0 3 97 778 769 1 0 2 198 769 1 0 2 230 769 1 0 2 216
  769 1 0 2 248 769 1 0 2 65 783 1 0 2 97 783 1 0 2 65 785 1 0 2 97 785 1 0 2 69 783 1 0 2 101 783
  1 0 2 69 785 1 0 2 101 785 1 0 2 73 783 1 0 2 105 783 1 0 2 73 785 1 0 2 105 785 1 0 2 79 783 1
  0 2 111 783 1 0 2 79 785 1 0 2 111 785 1 0 2 82 783 1 0 2 114 783 1 0 2 82 785 1 0 2 114 785 1 0
  2 85 783 1 0 2 117 783 1 0 2 85 785 1 0 2 117 785 1 0 2 83 806 1 0 2 115 806 1 0 2 84 806 1 0 2
  116 806 3 0 2 72 780 1 0 2 104 780 7 0 2 65 775 1 0 2 97 775 1 0 2 69 807 1 0 2 101 807 1 0 3 79
  776 772 1 0 3 111 776 772 1 0 3 79 771 772 1 0 3 111 771 772 1 0 2 79 775 1 0 2 111 775 1 0 3 79
  775 772 1 0 3 111 775 772 1 0 2 89 772 1 0 2 121 772 125 0 1 104 1 0 1 614 1 0 1 106 1 0 1 114 1
  0 1 633 1 0 1 635 1 0 1 641 1 0 1 119 1 0 1 121 32 0 2 32 774 1 0 2 32 775 1 0 2 32 778 1 0 2 32
  808 1 0 2 32 771 1 0 2 32 779 3 0 1 611 1 0 1 108 1 0 1 115 1 0 1 120 1 0 1 661 92 1 1 768 3 0 1
  787 1 0 2 776 769 48 0 1 697 6 0 2 32 837 4 0 1 59 6 0 2 32 769 1 0 3 32 776 769 1 0 2 913 769 1
  0 1 183 1 0 2 917 769 1 0 2 919 769 1 0 2 921 769 2 0 2 927 769 2 0 2 933 769 1 0 2 937 769 1 0
  3 953 776 769 26 0 2 921 776 1 0 2 933 776 1 0 2 945 769 1 0 2 949 769 1 0 2 951 769 1 0 2 953
  769 1 0 3 965 776 769 26 0 2 953 776 1 0 2 965 776 1 0 2 959 769 1 0 2 965 769 1 0 2 969 769 2 0
  1 946 1 0 1 952 1 0 1 933 1 0 2 933 769 1 0 2 933 776 1 0 1 966 1 0 1 960 26 0 1 954 1 1 1 961 3
  0 1 920 1 0 1 949 4 0 1 931 7 0 2 1045 768 1 0 2 1045 776 2 0 2 1043 769 4 0 2 1030 776 5 0 2
  1050 769 1 0 2 1048 768 1 0 2 1059 774 11 0 2 1048 774 32 0 2 1080 774 23 0 2 1077 768 1 0 2
  1077 776 2 0 2 1075 769 4 0 2 1110 776 5 0 2 1082 769 1 0 2 1080 768 1 0 2 1091 774 24 0 2 1140
  783 1 0 2 1141 783 74 0 2 1046 774 1 0 2 1078 774 14 0 2 1040 774 1 0 2 1072 774 1 0 2 1040 776
  1 0 2 1072 776 3 0 2 1045 774 1 0 2 1077 774 3 0 2 1240 776 1 0 2 1241 776 1 0 2 1046 776 1 0 2
  1078 776 1 0 2 1047 776 1 0 2 1079 776 3 0 2 1048 772 1 0 2 1080 772 1 0 2 1048 776 1 0 2 1080
  776 1 0 2 1054 776 1 0 2 1086 776 3 0 2 1256 776 1 0 2 1257 776 1 0 2 1069 776 1 0 2 1101 776 1
  0 2 1059 772 1 0 2 1091 772 1 0 2 1059 776 1 0 2 1091 776 1 0 2 1059 779 1 0 2 1091 779 1 0 2
  1063 776 1 0 2 1095 776 3 0 2 1067 776 1 0 2 1099 776 142 0 2 1381 1410 155 0 2 1575 1619 1 0 2
  1575 1620 1 0 2 1608 1620 1 0 2 1575 1621 1 0 2 1610 1620 79 0 2 1575 1652 1 0 2 1608 1652 1 0 2
  1735 1652 1 0 2 1610 1652 72 0 2 1749 1620 2 0 2 1729 1620 17 0 2 1746 1620 598 0 2 2344 2364 8
  0 2 2352 2364 3 0 2 2355 2364 36 0 2 2325 2364 1 0 2 2326 2364 1 0 2 2327 2364 1 0 2 2332 2364 1
  0 2 2337 2364 1 0 2 2338 2364 1 0 2 2347 2364 1 0 2 2351 2364 108 0 2 2503 2494 1 0 2 2503 2519
  16 0 2 2465 2492 1 0 2 2466 2492 2 0 2 2479 2492 84 0 2 2610 2620 3 0 2 2616 2620 35 0 2 2582
  2620 1 0 2 2583 2620 1 0 2 2588 2620 3 0 2 2603 2620 234 0 2 2887 2902 3 0 2 2887 2878 1 0 2
  2887 2903 16 0 2 2849 2876 1 0 2 2850 2876 55 0 2 2962 3031 54 0 2 3014 3006 1 0 2 3015 3006 1 0
  2 3014 3031 124 0 2 3142 3158 120 0 2 3263 3285 7 0 2 3270 3285 1 0 2 3270 3286 2 0 2 3270 3266
  1 0 3 3270 3266 3285 127 0 2 3398 3390 1 0 2 3399 3390 1 0 2 3398 3415 142 0 2 3545 3530 2 0 2
  3545 3535 1 0 3 3545 3535 3530 1 0 2 3545 3551 85 0 2 3661 3634 128 0 2 3789 3762 41 0 2 3755
  3737 1 0 2 3755 3745 47 0 1 3851 55 0 2 3906 4023 10 0 2 3916 4023 5 0 2 3921 4023 5 0 2 3926
  4023 5 0 2 3931 4023 13 0 2 3904 4021 10 0 2 3953 3954 2 0 2 3953 3956 1 0 2 4018 3968 1 0 3
  4018 3953 3968 1 0 2 4019 3968 1 0 3 4019 3953 3968 8 0 2 3953 3968 18 0 2 3986 4023 10 0 2 3996
  4023 5 0 2 4001 4023 5 0 2 4006 4023 5 0 2 4011 4023 13 0 2 3984 4021 109 0 2 4133 4142 214 0 1
  4316 2570 0 2 6917 6965 2 0 2 6919 6965 2 0 2 6921 6965 2 0 2 6923 6965 2 0 2 6925 6965 4 0 2
  6929 6965 41 0 2 6970 6965 2 0 2 6972 6965 3 0 2 6974 6965 1 0 2 6975 6965 2 0 2 6978 6965 489 0
  1 65 1 0 1 198 1 0 1 66 2 1 1 68 2 0 1 398 1 7 1 71 9 0 1 79 1 0 1 546 1 0 1 80 1 0 1 82 1 1 1
  84 2 0 1 87 1 0 1 97 1 1 1 592 2 0 1 7426 1 0 1 98 1 1 1 100 2 0 1 601 1 1 1 603 2 0 1 103 2 0 1
  107 1 0 1 109 1 0 1 331 1 0 1 111 1 0 1 596 1 1 1 7446 2 0 1 112 1 1 1 116 2 0 1 7453 1 0 1 623
  1 0 1 118 1 0 1 7461 1 2 1 946 3 1 1 966 2 0 1 105 1 0 1 114 1 1 1 117 2 1 1 946 2 0 1 961 1 1 1
  966 15 0 1 1085 35 0 1 594 1 0 1 99 1 0 1 597 1 0 1 240 1 0 1 604 1 0 1 102 1 0 1 607 1 0 1 609
  1 0 1 613 1 2 1 616 3 0 1 7547 1 0 1 669 1 0 1 621 1 0 1 7557 1 0 1 671 1 0 1 625 1 0 1 624 1 3
  1 626 4 0 1 632 1 1 1 642 2 0 1 427 1 1 1 649 2 0 1 7452 1 1 1 651 2 0 1 122 1 2 1 656 3 0 1 952
  65 0 2 65 805 1 0 2 97 805 1 0 2 66 775 1 0 2 98 775 1 0 2 66 803 1 0 2 98 803 1 0 2 66 817 1 0
  2 98 817 1 0 3 67 807 769 1 0 3 99 807 769 1 0 2 68 775 1 0 2 100 775 1 0 2 68 803 1 0 2 100 803
  1 0 2 68 817 1 0 2 100 817 1 0 2 68 807 1 0 2 100 807 1 0 2 68 813 1 0 2 100 813 1 0 3 69 772
  768 1 0 3 101 772 768 1 0 3 69 772 769 1 0 3 101 772 769 1 0 2 69 813 1 0 2 101 813 1 0 2 69 816
  1 0 2 101 816 1 0 3 69 807 774 1 0 3 101 807 774 1 0 2 70 775 1 0 2 102 775 1 0 2 71 772 1 0 2
  103 772 1 0 2 72 775 1 0 2 104 775 1 0 2 72 803 1 0 2 104 803 1 0 2 72 776 1 0 2 104 776 1 0 2
  72 807 1 0 2 104 807 1 0 2 72 814 1 0 2 104 814 1 0 2 73 816 1 0 2 105 816 1 0 3 73 776 769 1 0
  3 105 776 769 1 0 2 75 769 1 0 2 107 769 1 0 2 75 803 1 0 2 107 803 1 0 2 75 817 1 0 2 107 817 1
  0 2 76 803 1 0 2 108 803 1 0 3 76 803 772 1 0 3 108 803 772 1 0 2 76 817 1 0 2 108 817 1 0 2 76
  813 1 0 2 108 813 1 0 2 77 769 1 0 2 109 769 1 0 2 77 775 1 0 2 109 775 1 0 2 77 803 1 0 2 109
  803 1 0 2 78 775 1 0 2 110 775 1 0 2 78 803 1 0 2 110 803 1 0 2 78 817 1 0 2 110 817 1 0 2 78
  813 1 0 2 110 813 1 0 3 79 771 769 1 0 3 111 771 769 1 0 3 79 771 776 1 0 3 111 771 776 1 0 3 79
  772 768 1 0 3 111 772 768 1 0 3 79 772 769 1 0 3 111 772 769 1 0 2 80 769 1 0 2 112 769 1 0 2 80
  775 1 0 2 112 775 1 0 2 82 775 1 0 2 114 775 1 0 2 82 803 1 0 2 114 803 1 0 3 82 803 772 1 0 3
  114 803 772 1 0 2 82 817 1 0 2 114 817 1 0 2 83 775 1 0 2 115 775 1 0 2 83 803 1 0 2 115 803 1 0
  3 83 769 775 1 0 3 115 769 775 1 0 3 83 780 775 1 0 3 115 780 775 1 0 3 83 803 775 1 0 3 115 803
  775 1 0 2 84 775 1 0 2 116 775 1 0 2 84 803 1 0 2 116 803 1 0 2 84 817 1 0 2 116 817 1 0 2 84
  813 1 0 2 116 813 1 0 2 85 804 1 0 2 117 804 1 0 2 85 816 1 0 2 117 816 1 0 2 85 813 1 0 2 117
  813 1 0 3 85 771 769 1 0 3 117 771 769 1 0 3 85 772 776 1 0 3 117 772 776 1 0 2 86 771 1 0 2 118
  771 1 0 2 86 803 1 0 2 118 803 1 0 2 87 768 1 0 2 119 768 1 0 2 87 769 1 0 2 119 769 1 0 2 87
  776 1 0 2 119 776 1 0 2 87 775 1 0 2 119 775 1 0 2 87 803 1 0 2 119 803 1 0 2 88 775 1 0 2 120
  775 1 0 2 88 776 1 0 2 120 776 1 0 2 89 775 1 0 2 121 775 1 0 2 90 770 1 0 2 122 770 1 0 2 90
  803 1 0 2 122 803 1 0 2 90 817 1 0 2 122 817 1 0 2 104 817 1 0 2 116 776 1 0 2 119 778 1 0 2 121
  778 1 0 2 97 702 1 0 2 115 775 5 0 2 65 803 1 0 2 97 803 1 0 2 65 777 1 0 2 97 777 1 0 3 65 770
  769 1 0 3 97 770 769 1 0 3 65 770 768 1 0 3 97 770 768 1 0 3 65 770 777 1 0 3 97 770 777 1 0 3
  65 770 771 1 0 3 97 770 771 1 0 3 65 803 770 1 0 3 97 803 770 1 0 3 65 774 769 1 0 3 97 774 769
  1 0 3 65 774 768 1 0 3 97 774 768 1 0 3 65 774 777 1 0 3 97 774 777 1 0 3 65 774 771 1 0 3 97
  774 771 1 0 3 65 803 774 1 0 3 97 803 774 1 0 2 69 803 1 0 2 101 803 1 0 2 69 777 1 0 2 101 777
  1 0 2 69 771 1 0 2 101 771 1 0 3 69 770 769 1 0 3 101 770 769 1 0 3 69 770 768 1 0 3 101 770 768
  1 0 3 69 770 777 1 0 3 101 770 777 1 0 3 69 770 771 1 0 3 101 770 771 1 0 3 69 803 770 1 0 3 101
  803 770 1 0 2 73 777 1 0 2 105 777 1 0 2 73 803 1 0 2 105 803 1 0 2 79 803 1 0 2 111 803 1 0 2
  79 777 1 0 2 111 777 1 0 3 79 770 769 1 0 3 111 770 769 1 0 3 79 770 768 1 0 3 111 770 768 1 0 3
  79 770 777 1 0 3 111 770 777 1 0 3 79 770 771 1 0 3 111 770 771 1 0 3 79 803 770 1 0 3 111 803
  770 1 0 3 79 795 769 1 0 3 111 795 769 1 0 3 79 795 768 1 0 3 111 795 768 1 0 3 79 795 777 1 0 3
  111 795 777 1 0 3 79 795 771 1 0 3 111 795 771 1 0 3 79 795 803 1 0 3 111 795 803 1 0 2 85 803 1
  0 2 117 803 1 0 2 85 777 1 0 2 117 777 1 0 3 85 795 769 1 0 3 117 795 769 1 0 3 85 795 768 1 0 3
  117 795 768 1 0 3 85 795 777 1 0 3 117 795 777 1 0 3 85 795 771 1 0 3 117 795 771 1 0 3 85 795
  803 1 0 3 117 795 803 1 0 2 89 768 1 0 2 121 768 1 0 2 89 803 1 0 2 121 803 1 0 2 89 777 1 0 2
  121 777 1 0 2 89 771 1 0 2 121 771 7 0 2 945 787 1 0 2 945 788 1 0 3 945 787 768 1 0 3 945 788
  768 1 0 3 945 787 769 1 0 3 945 788 769 1 0 3 945 787 834 1 0 3 945 788 834 1 0 2 913 787 1 0 2
  913 788 1 0 3 913 787 768 1 0 3 913 788 768 1 0 3 913 787 769 1 0 3 913 788 769 1 0 3 913 787
  834 1 0 3 913 788 834 1 0 2 949 787 1 0 2 949 788 1 0 3 949 787 768 1 0 3 949 788 768 1 0 3 949
  787 769 1 0 3 949 788 769 3 0 2 917 787 1 0 2 917 788 1 0 3 917 787 768 1 0 3 917 788 768 1 0 3
  917 787 769 1 0 3 917 788 769 3 0 2 951 787 1 0 2 951 788 1 0 3 951 787 768 1 0 3 951 788 768 1
  0 3 951 787 769 1 0 3 951 788 769 1 0 3 951 787 834 1 0 3 951 788 834 1 0 2 919 787 1 0 2 919
  788 1 0 3 919 787 768 1 0 3 919 788 768 1 0 3 919 787 769 1 0 3 919 788 769 1 0 3 919 787 834 1
  0 3 919 788 834 1 0 2 953 787 1 0 2 953 788 1 0 3 953 787 768 1 0 3 953 788 768 1 0 3 953 787
  769 1 0 3 953 788 769 1 0 3 953 787 834 1 0 3 953 788 834 1 0 2 921 787 1 0 2 921 788 1 0 3 921
  787 768 1 0 3 921 788 768 1 0 3 921 787 769 1 0 3 921 788 769 1 0 3 921 787 834 1 0 3 921 788
  834 1 0 2 959 787 1 0 2 959 788 1 0 3 959 787 768 1 0 3 959 788 768 1 0 3 959 787 769 1 0 3 959
  788 769 3 0 2 927 787 1 0 2 927 788 1 0 3 927 787 768 1 0 3 927 788 768 1 0 3 927 787 769 1 0 3
  927 788 769 3 0 2 965 787 1 0 2 965 788 1 0 3 965 787 768 1 0 3 965 788 768 1 0 3 965 787 769 1
  0 3 965 788 769 1 0 3 965 787 834 1 0 3 965 788 834 2 0 2 933 788 2 0 3 933 788 768 2 0 3 933
  788 769 2 0 3 933 788 834 1 0 2 969 787 1 0 2 969 788 1 0 3 969 787 768 1 0 3 969 788 768 1 0 3
  969 787 769 1 0 3 969 788 769 1 0 3 969 787 834 1 0 3 969 788 834 1 0 2 937 787 1 0 2 937 788 1
  0 3 937 787 768 1 0 3 937 788 768 1 0 3 937 787 769 1 0 3 937 788 769 1 0 3 937 787 834 1 0 3
  937 788 834 1 0 2 945 768 1 0 2 945 769 1 0 2 949 768 1 0 2 949 769 1 0 2 951 768 1 0 2 951 769
  1 0 2 953 768 1 0 2 953 769 1 0 2 959 768 1 0 2 959 769 1 0 2 965 768 1 0 2 965 769 1 0 2 969
  768 1 0 2 969 769 3 0 3 945 787 837 1 0 3 945 788 837 1 0 4 945 787 768 837 1 0 4 945 788 768
  837 1 0 4 945 787 769 837 1 0 4 945 788 769 837 1 0 4 945 787 834 837 1 0 4 945 788 834 837 1 0
  3 913 787 837 1 0 3 913 788 837 1 0 4 913 787 768 837 1 0 4 913 788 768 837 1 0 4 913 787 769
  837 1 0 4 913 788 769 837 1 0 4 913 787 834 837 1 0 4 913 788 834 837 1 0 3 951 787 837 1 0 3
  951 788 837 1 0 4 951 787 768 837 1 0 4 951 788 768 837 1 0 4 951 787 769 837 1 0 4 951 788 769
  837 1 0 4 951 787 834 837 1 0 4 951 788 834 837 1 0 3 919 787 837 1 0 3 919 788 837 1 0 4 919
  787 768 837 1 0 4 919 788 768 837 1 0 4 919 787 769 837 1 0 4 919 788 769 837 1 0 4 919 787 834
  837 1 0 4 919 788 834 837 1 0 3 969 787 837 1 0 3 969 788 837 1 0 4 969 787 768 837 1 0 4 969
  788 768 837 1 0 4 969 787 769 837 1 0 4 969 788 769 837 1 0 4 969 787 834 837 1 0 4 969 788 834
  837 1 0 3 937 787 837 1 0 3 937 788 837 1 0 4 937 787 768 837 1 0 4 937 788 768 837 1 0 4 937
  787 769 837 1 0 4 937 788 769 837 1 0 4 937 787 834 837 1 0 4 937 788 834 837 1 0 2 945 774 1 0
  2 945 772 1 0 3 945 768 837 1 0 2 945 837 1 0 3 945 769 837 2 0 2 945 834 1 0 3 945 834 837 1 0
  2 913 774 1 0 2 913 772 1 0 2 913 768 1 0 2 913 769 1 0 2 913 837 1 0 2 32 787 1 0 1 953 1 0 2
  32 787 1 0 2 32 834 1 0 3 32 776 834 1 0 3 951 768 837 1 0 2 951 837 1 0 3 951 769 837 2 0 2 951
  834 1 0 3 951 834 837 1 0 2 917 768 1 0 2 917 769 1 0 2 919 768 1 0 2 919 769 1 0 2 919 837 1 0
  3 32 787 768 1 0 3 32 787 769 1 0 3 32 787 834 1 0 2 953 774 1 0 2 953 772 1 0 3 953 776 768 1 0
  3 953 776 769 3 0 2 953 834 1 0 3 953 776 834 1 0 2 921 774 1 0 2 921 772 1 0 2 921 768 1 0 2
  921 769 2 0 3 32 788 768 1 0 3 32 788 769 1 0 3 32 788 834 1 0 2 965 774 1 0 2 965 772 1 0 3 965
  776 768 1 0 3 965 776 769 1 0 2 961 787 1 0 2 961 788 1 0 2 965 834 1 0 3 965 776 834 1 0 2 933
  774 1 0 2 933 772 1 0 2 933 768 1 0 2 933 769 1 0 2 929 788 1 0 3 32 776 768 1 0 3 32 776 769 1
  0 1 96 3 0 3 969 768 837 1 0 2 969 837 1 0 3 969 769 837 2 0 2 969 834 1 0 3 969 834 837 1 0 2
  927 768 1 0 2 927 769 1 0 2 937 768 1 0 2 937 769 1 0 2 937 837 1 0 2 32 769 1 0 2 32 788 2 0 1
  32 1 0 1 32 1 0 1 32 1 0 1 32 1 0 1 32 1 0 1 32 1 0 1 32 1 0 1 32 1 0 1 32 1 0 1 32 1 0 1 32 7 0
  1 8208 6 0 2 32 819 13 0 1 46 1 0 2 46 46 1 0 3 46 46 46 9 0 1 32 4 0 2 8242 8242 1 0 3 8242
  8242 8242 2 0 2 8245 8245 1 0 3 8245 8245 8245 5 0 2 33 33 2 0 2 32 773 9 0 2 63 63 1 0 2 63 33
  1 0 2 33 63 14 0 4 8242 8242 8242 8242 8 0 1 32 17 0 1 48 1 0 1 105 3 5 1 52 6 0 1 43 1 0 1 8722
  1 0 1 61 1 1 1 40 2 0 1 110 1 9 1 48 10 0 1 43 1 0 1 8722 1 0 1 61 1 1 1 40 3 0 1 97 1 0 1 101 1
  0 1 111 1 0 1 120 1 0 1 601 1 0 1 104 1 3 1 107 4 0 1 112 1 1 1 115 13 0 2 82 115 88 0 3 97 47
  99 1 0 3 97 47 115 1 0 1 67 1 0 2 176 67 2 0 3 99 47 111 1 0 3 99 47 117 1 0 1 400 2 0 2 176 70
  1 0 1 103 1 0 1 72 1 0 1 72 1 0 1 72 1 0 1 104 1 0 1 295 1 0 1 73 1 0 1 73 1 0 1 76 1 0 1 108 2
  0 1 78 1 0 2 78 111 3 2 1 80 3 0 1 82 1 0 1 82 3 0 2 83 77 1 0 3 84 69 76 1 0 2 84 77 2 0 1 90 2
  0 1 937 2 0 1 90 2 0 1 75 1 0 2 65 778 1 1 1 66 3 0 1 101 1 1 1 69 3 0 1 77 1 0 1 111 1 3 1 1488
  4 0 1 105 2 0 3 70 65 88 1 0 1 960 1 0 1 947 1 0 1 915 1 0 1 928 1 0 1 8721 5 0 1 68 1 1 1 100 2
  1 1 105 8 0 3 49 8260 55 1 0 3 49 8260 57 1 0 4 49 8260 49 48 1 0 3 49 8260 51 1 0 3 50 8260 51
  1 0 3 49 8260 53 1 0 3 50 8260 53 1 0 3 51 8260 53 1 0 3 52 8260 53 1 0 3 49 8260 54 1 0 3 53
  8260 54 1 0 3 49 8260 56 1 0 3 51 8260 56 1 0 3 53 8260 56 1 0 3 55 8260 56 1 0 2 49 8260 1 0 1
  73 1 0 2 73 73 1 0 3 73 73 73 1 0 2 73 86 1 0 1 86 1 0 2 86 73 1 0 3 86 73 73 1 0 4 86 73 73 73
  1 0 2 73 88 1 0 1 88 1 0 2 88 73 1 0 3 88 73 73 1 0 1 76 1 1 1 67 2 0 1 77 1 0 1 105 1 0 2 105
  105 1 0 3 105 105 105 1 0 2 105 118 1 0 1 118 1 0 2 118 105 1 0 3 118 105 105 1 0 4 118 105 105
  105 1 0 2 105 120 1 0 1 120 1 0 2 120 105 1 0 3 120 105 105 1 0 1 108 1 1 1 99 2 0 1 109 10 0 3
  48 8260 51 17 0 2 8592 824 1 0 2 8594 824 19 0 2 8596 824 31 0 2 8656 824 1 0 2 8660 824 1 0 2
  8658 824 53 0 2 8707 824 5 0 2 8712 824 3 0 2 8715 824 24 0 2 8739 824 2 0 2 8741 824 6 0 2 8747
  8747 1 0 3 8747 8747 8747 2 0 2 8750 8750 1 0 3 8750 8750 8750 17 0 2 8764 824 3 0 2 8771 824 3
  0 2 8773 824 2 0 2 8776 824 23 0 2 61 824 2 0 2 8801 824 11 0 2 8781 824 1 0 2 60 824 1 0 2 62
  824 1 0 2 8804 824 1 0 2 8805 824 3 0 2 8818 824 1 0 2 8819 824 3 0 2 8822 824 1 0 2 8823 824 7
  0 2 8826 824 1 0 2 8827 824 3 0 2 8834 824 1 0 2 8835 824 3 0 2 8838 824 1 0 2 8839 824 35 0 2
  8866 824 1 0 2 8872 824 1 0 2 8873 824 1 0 2 8875 824 49 0 2 8828 824 1 0 2 8829 824 1 0 2 8849
  824 1 0 2 8850 824 7 0 2 8882 824 1 0 2 8883 824 1 0 2 8884 824 1 0 2 8885 824 60 1 1 12296 311
  8 1 49 9 0 2 49 48 1 0 2 49 49 1 0 2 49 50 1 0 2 49 51 1 0 2 49 52 1 0 2 49 53 1 0 2 49 54 1 0 2
  49 55 1 0 2 49 56 1 0 2 49 57 1 0 2 50 48 1 0 3 40 49 41 1 0 3 40 50 41 1 0 3 40 51 41 1 0 3 40
  52 41 1 0 3 40 53 41 1 0 3 40 54 41 1 0 3 40 55 41 1 0 3 40 56 41 1 0 3 40 57 41 1 0 4 40 49 48
  41 1 0 4 40 49 49 41 1 0 4 40 49 50 41 1 0 4 40 49 51 41 1 0 4 40 49 52 41 1 0 4 40 49 53 41 1 0
  4 40 49 54 41 1 0 4 40 49 55 41 1 0 4 40 49 56 41 1 0 4 40 49 57 41 1 0 4 40 50 48 41 1 0 2 49
  46 1 0 2 50 46 1 0 2 51 46 1 0 2 52 46 1 0 2 53 46 1 0 2 54 46 1 0 2 55 46 1 0 2 56 46 1 0 2 57
  46 1 0 3 49 48 46 1 0 3 49 49 46 1 0 3 49 50 46 1 0 3 49 51 46 1 0 3 49 52 46 1 0 3 49 53 46 1 0
  3 49 54 46 1 0 3 49 55 46 1 0 3 49 56 46 1 0 3 49 57 46 1 0 3 50 48 46 1 0 3 40 97 41 1 0 3 40
  98 41 1 0 3 40 99 41 1 0 3 40 100 41 1 0 3 40 101 41 1 0 3 40 102 41 1 0 3 40 103 41 1 0 3 40
  104 41 1 0 3 40 105 41 1 0 3 40 106 41 1 0 3 40 107 41 1 0 3 40 108 41 1 0 3 40 109 41 1 0 3 40
  110 41 1 0 3 40 111 41 1 0 3 40 112 41 1 0 3 40 113 41 1 0 3 40 114 41 1 0 3 40 115 41 1 0 3 40
  116 41 1 0 3 40 117 41 1 0 3 40 118 41 1 0 3 40 119 41 1 0 3 40 120 41 1 0 3 40 121 41 1 0 3 40
  122 41 1 25 1 65 26 25 1 97 26 0 1 48 1314 0 4 8747 8747 8747 8747 104 0 3 58 58 61 1 0 2 61 61
  1 0 3 61 61 61 102 0 2 10973 824 416 0 1 106 1 0 1 86 242 0 1 11617 304 0 1 27597 84 0 1 40863
  13 0 1 19968 1 0 1 20008 1 0 1 20022 1 0 1 20031 1 0 1 20057 1 0 1 20101 1 0 1 20108 1 0 1 20128
  1 0 1 20154 1 0 1 20799 1 0 1 20837 1 0 1 20843 1 0 1 20866 1 0 1 20886 1 0 1 20907 1 0 1 20960
  1 0 1 20981 1 0 1 20992 1 0 1 21147 1 0 1 21241 1 0 1 21269 1 0 1 21274 1 0 1 21304 1 0 1 21313
  1 0 1 21340 1 0 1 21353 1 0 1 21378 1 0 1 21430 1 0 1 21448 1 0 1 21475 1 0 1 22231 1 0 1 22303
  1 0 1 22763 1 0 1 22786 1 0 1 22794 1 0 1 22805 1 0 1 22823 1 0 1 22899 1 0 1 23376 1 0 1 23424
  1 0 1 23544 1 0 1 23567 1 0 1 23586 1 0 1 23608 1 0 1 23662 1 0 1 23665 1 0 1 24027 1 0 1 24037
  1 0 1 24049 1 0 1 24062 1 0 1 24178 1 0 1 24186 1 0 1 24191 1 0 1 24308 1 0 1 24318 1 0 1 24331
  1 0 1 24339 1 0 1 24400 1 0 1 24417 1 0 1 24435 1 0 1 24515 1 0 1 25096 1 0 1 25142 1 0 1 25163
  1 0 1 25903 1 0 1 25908 1 0 1 25991 1 0 1 26007 1 0 1 26020 1 0 1 26041 1 0 1 26080 1 0 1 26085
  1 0 1 26352 1 0 1 26376 1 0 1 26408 1 0 1 27424 1 0 1 27490 1 0 1 27513 1 0 1 27571 1 0 1 27595
  1 0 1 27604 1 0 1 27611 1 0 1 27663 1 0 1 27668 1 0 1 27700 1 0 1 28779 1 0 1 29226 1 0 1 29238
  1 0 1 29243 1 0 1 29247 1 0 1 29255 1 0 1 29273 1 0 1 29275 1 0 1 29356 1 0 1 29572 1 0 1 29577
  1 0 1 29916 1 0 1 29926 1 0 1 29976 1 0 1 29983 1 0 1 29992 1 0 1 30000 1 0 1 30091 1 0 1 30098
  1 0 1 30326 1 0 1 30333 1 0 1 30382 1 0 1 30399 1 0 1 30446 1 0 1 30683 1 0 1 30690 1 0 1 30707
  1 0 1 31034 1 0 1 31160 1 0 1 31166 1 0 1 31348 1 0 1 31435 1 0 1 31481 1 0 1 31859 1 0 1 31992
  1 0 1 32566 1 0 1 32593 1 0 1 32650 1 0 1 32701 1 0 1 32769 1 0 1 32780 1 0 1 32786 1 0 1 32819
  1 0 1 32895 1 0 1 32905 1 0 1 33251 1 0 1 33258 1 0 1 33267 1 0 1 33276 1 0 1 33292 1 0 1 33307
  1 0 1 33311 1 0 1 33390 1 0 1 33394 1 0 1 33400 1 0 1 34381 1 0 1 34411 1 0 1 34880 1 0 1 34892
  1 0 1 34915 1 0 1 35198 1 0 1 35211 1 0 1 35282 1 0 1 35328 1 0 1 35895 1 0 1 35910 1 0 1 35925
  1 0 1 35960 1 0 1 35997 1 0 1 36196 1 0 1 36208 1 0 1 36275 1 0 1 36523 1 0 1 36554 1 0 1 36763
  1 0 1 36784 1 0 1 36789 1 0 1 37009 1 0 1 37193 1 0 1 37318 1 0 1 37324 1 0 1 37329 1 0 1 38263
  1 0 1 38272 1 0 1 38428 1 0 1 38582 1 0 1 38585 1 0 1 38632 1 0 1 38737 1 0 1 38750 1 0 1 38754
  1 0 1 38761 1 0 1 38859 1 0 1 38893 1 0 1 38899 1 0 1 38913 1 0 1 39080 1 0 1 39131 1 0 1 39135
  1 0 1 39318 1 0 1 39321 1 0 1 39340 1 0 1 39592 1 0 1 39640 1 0 1 39647 1 0 1 39717 1 0 1 39727
  1 0 1 39730 1 0 1 39740 1 0 1 39770 1 0 1 40165 1 0 1 40565 1 0 1 40575 1 0 1 40613 1 0 1 40635
  1 0 1 40643 1 0 1 40653 1 0 1 40657 1 0 1 40697 1 0 1 40701 1 0 1 40718 1 0 1 40723 1 0 1 40736
  1 0 1 40763 1 0 1 40778 1 0 1 40786 1 0 1 40845 1 0 1 40860 1 0 1 40864 43 0 1 32 54 0 1 12306 2
  0 1 21313 1 1 1 21316 19 0 2 12363 12441 2 0 2 12365 12441 2 0 2 12367 12441 2 0 2 12369 12441 2
  0 2 12371 12441 2 0 2 12373 12441 2 0 2 12375 12441 2 0 2 12377 12441 2 0 2 12379 12441 2 0 2
  12381 12441 2 0 2 12383 12441 2 0 2 12385 12441 3 0 2 12388 12441 2 0 2 12390 12441 2 0 2 12392
  12441 7 0 2 12399 12441 1 0 2 12399 12442 2 0 2 12402 12441 1 0 2 12402 12442 2 0 2 12405 12441
  1 0 2 12405 12442 2 0 2 12408 12441 1 0 2 12408 12442 2 0 2 12411 12441 1 0 2 12411 12442 23 0 2
  12358 12441 7 0 2 32 12441 1 0 2 32 12442 2 0 2 12445 12441 1 0 2 12424 12426 13 0 2 12459 12441
  2 0 2 12461 12441 2 0 2 12463 12441 2 0 2 12465 12441 2 0 2 12467 12441 2 0 2 12469 12441 2 0 2
  12471 12441 2 0 2 12473 12441 2 0 2 12475 12441 2 0 2 12477 12441 2 0 2 12479 12441 2 0 2 12481
  12441 3 0 2 12484 12441 2 0 2 12486 12441 2 0 2 12488 12441 7 0 2 12495 12441 1 0 2 12495 12442
  2 0 2 12498 12441 1 0 2 12498 12442 2 0 2 12501 12441 1 0 2 12501 12442 2 0 2 12504 12441 1 0 2
  12504 12442 2 0 2 12507 12441 1 0 2 12507 12442 23 0 2 12454 12441 3 0 2 12527 12441 1 0 2 12528
  12441 1 0 2 12529 12441 1 0 2 12530 12441 4 0 2 12541 12441 1 0 2 12467 12488 50 1 1 4352 2 0 1
  4522 1 0 1 4354 1 1 1 4524 2 2 1 4355 3 5 1 4528 6 0 1 4378 1 2 1 4358 3 0 1 4385 1 9 1 4361 10
  20 1 4449 21 0 1 4448 1 1 1 4372 2 1 1 4551 2 0 1 4556 1 0 1 4558 1 0 1 4563 1 0 1 4567 1 0 1
  4569 1 0 1 4380 1 0 1 4573 1 0 1 4575 1 1 1 4381 2 0 1 4384 1 1 1 4386 2 0 1 4391 1 0 1 4393 1 4
  1 4395 5 0 1 4402 1 0 1 4406 1 0 1 4416 1 0 1 4423 1 0 1 4428 1 1 1 4593 2 2 1 4439 3 1 1 4484 2
  0 1 4488 1 1 1 4497 2 0 1 4500 1 0 1 4510 1 0 1 4513 4 0 1 19968 1 0 1 20108 1 0 1 19977 1 0 1
  22235 1 0 1 19978 1 0 1 20013 1 0 1 19979 1 0 1 30002 1 0 1 20057 1 0 1 19993 1 0 1 19969 1 0 1
  22825 1 0 1 22320 1 0 1 20154 97 0 3 40 4352 41 1 0 3 40 4354 41 1 0 3 40 4355 41 1 0 3 40 4357
  41 1 0 3 40 4358 41 1 0 3 40 4359 41 1 0 3 40 4361 41 1 0 3 40 4363 41 1 0 3 40 4364 41 1 0 3 40
  4366 41 1 0 3 40 4367 41 1 0 3 40 4368 41 1 0 3 40 4369 41 1 0 3 40 4370 41 1 0 4 40 4352 4449
  41 1 0 4 40 4354 4449 41 1 0 4 40 4355 4449 41 1 0 4 40 4357 4449 41 1 0 4 40 4358 4449 41 1 0 4
  40 4359 4449 41 1 0 4 40 4361 4449 41 1 0 4 40 4363 4449 41 1 0 4 40 4364 4449 41 1 0 4 40 4366
  4449 41 1 0 4 40 4367 4449 41 1 0 4 40 4368 4449 41 1 0 4 40 4369 4449 41 1 0 4 40 4370 4449 41
  1 0 4 40 4364 4462 41 1 0 7 40 4363 4457 4364 4453 4523 41 1 0 6 40 4363 4457 4370 4462 41 2 0 3
  40 19968 41 1 0 3 40 20108 41 1 0 3 40 19977 41 1 0 3 40 22235 41 1 0 3 40 20116 41 1 0 3 40
  20845 41 1 0 3 40 19971 41 1 0 3 40 20843 41 1 0 3 40 20061 41 1 0 3 40 21313 41 1 0 3 40 26376
  41 1 0 3 40 28779 41 1 0 3 40 27700 41 1 0 3 40 26408 41 1 0 3 40 37329 41 1 0 3 40 22303 41 1 0
  3 40 26085 41 1 0 3 40 26666 41 1 0 3 40 26377 41 1 0 3 40 31038 41 1 0 3 40 21517 41 1 0 3 40
  29305 41 1 0 3 40 36001 41 1 0 3 40 31069 41 1 0 3 40 21172 41 1 0 3 40 20195 41 1 0 3 40 21628
  41 1 0 3 40 23398 41 1 0 3 40 30435 41 1 0 3 40 20225 41 1 0 3 40 36039 41 1 0 3 40 21332 41 1 0
  3 40 31085 41 1 0 3 40 20241 41 1 0 3 40 33258 41 1 0 3 40 33267 41 1 0 1 21839 1 0 1 24188 1 0
  1 25991 1 0 1 31631 9 0 3 80 84 69 1 0 2 50 49 1 0 2 50 50 1 0 2 50 51 1 0 2 50 52 1 0 2 50 53 1
  0 2 50 54 1 0 2 50 55 1 0 2 50 56 1 0 2 50 57 1 0 2 51 48 1 0 2 51 49 1 0 2 51 50 1 0 2 51 51 1
  0 2 51 52 1 0 2 51 53 1 0 1 4352 1 1 1 4354 2 2 1 4357 3 0 1 4361 1 1 1 4363 2 4 1 4366 5 0 2
  4352 4449 1 0 2 4354 4449 1 0 2 4355 4449 1 0 2 4357 4449 1 0 2 4358 4449 1 0 2 4359 4449 1 0 2
  4361 4449 1 0 2 4363 4449 1 0 2 4364 4449 1 0 2 4366 4449 1 0 2 4367 4449 1 0 2 4368 4449 1 0 2
  4369 4449 1 0 2 4370 4449 1 0 5 4366 4449 4535 4352 4457 1 0 4 4364 4462 4363 4468 1 0 2 4363
  4462 2 0 1 19968 1 0 1 20108 1 0 1 19977 1 0 1 22235 1 0 1 20116 1 0 1 20845 1 0 1 19971 1 0 1
  20843 1 0 1 20061 1 0 1 21313 1 0 1 26376 1 0 1 28779 1 0 1 27700 1 0 1 26408 1 0 1 37329 1 0 1
  22303 1 0 1 26085 1 0 1 26666 1 0 1 26377 1 0 1 31038 1 0 1 21517 1 0 1 29305 1 0 1 36001 1 0 1
  31069 1 0 1 21172 1 0 1 31192 1 0 1 30007 1 0 1 22899 1 0 1 36969 1 0 1 20778 1 0 1 21360 1 0 1
  27880 1 0 1 38917 1 0 1 20241 1 0 1 20889 1 0 1 27491 1 0 1 19978 1 0 1 20013 1 0 1 19979 1 0 1
  24038 1 0 1 21491 1 0 1 21307 1 0 1 23447 1 0 1 23398 1 0 1 30435 1 0 1 20225 1 0 1 36039 1 0 1
  21332 1 0 1 22812 1 0 2 51 54 1 0 2 51 55 1 0 2 51 56 1 0 2 51 57 1 0 2 52 48 1 0 2 52 49 1 0 2
  52 50 1 0 2 52 51 1 0 2 52 52 1 0 2 52 53 1 0 2 52 54 1 0 2 52 55 1 0 2 52 56 1 0 2 52 57 1 0 2
  53 48 1 0 2 49 26376 1 0 2 50 26376 1 0 2 51 26376 1 0 2 52 26376 1 0 2 53 26376 1 0 2 54 26376
  1 0 2 55 26376 1 0 2 56 26376 1 0 2 57 26376 1 0 3 49 48 26376 1 0 3 49 49 26376 1 0 3 49 50
  26376 1 0 2 72 103 1 0 3 101 114 103 1 0 2 101 86 1 0 3 76 84 68 1 0 1 12450 1 0 1 12452 1 0 1
  12454 1 0 1 12456 1 1 1 12458 2 0 1 12461 1 0 1 12463 1 0 1 12465 1 0 1 12467 1 0 1 12469 1 0 1
  12471 1 0 1 12473 1 0 1 12475 1 0 1 12477 1 0 1 12479 1 0 1 12481 1 0 1 12484 1 0 1 12486 1 0 1
  12488 1 5 1 12490 6 0 1 12498 1 0 1 12501 1 0 1 12504 1 0 1 12507 1 4 1 12510 5 0 1 12516 1 0 1
  12518 1 5 1 12520 6 3 1 12527 4 0 2 20196 21644 1 0 5 12450 12495 12442 12540 12488 1 0 4 12450
  12523 12501 12449 1 0 5 12450 12531 12504 12442 12450 1 0 3 12450 12540 12523 1 0 5 12452 12491
  12531 12463 12441 1 0 3 12452 12531 12481 1 0 3 12454 12457 12531 1 0 6 12456 12473 12463 12540
  12488 12441 1 0 4 12456 12540 12459 12540 1 0 3 12458 12531 12473 1 0 3 12458 12540 12512 1 0 3
  12459 12452 12522 1 0 4 12459 12521 12483 12488 1 0 4 12459 12525 12522 12540 1 0 4 12459 12441
  12525 12531 1 0 4 12459 12441 12531 12510 1 0 4 12461 12441 12459 12441 1 0 4 12461 12441 12491
  12540 1 0 4 12461 12517 12522 12540 1 0 6 12461 12441 12523 12479 12441 12540 1 0 2 12461 12525
  1 0 6 12461 12525 12463 12441 12521 12512 1 0 6 12461 12525 12513 12540 12488 12523 1 0 5 12461
  12525 12527 12483 12488 1 0 4 12463 12441 12521 12512 1 0 6 12463 12441 12521 12512 12488 12531
  1 0 6 12463 12523 12475 12441 12452 12525 1 0 4 12463 12525 12540 12493 1 0 3 12465 12540 12473
  1 0 3 12467 12523 12490 1 0 4 12467 12540 12507 12442 1 0 4 12469 12452 12463 12523 1 0 5 12469
  12531 12481 12540 12512 1 0 5 12471 12522 12531 12463 12441 1 0 3 12475 12531 12481 1 0 3 12475
  12531 12488 1 0 4 12479 12441 12540 12473 1 0 3 12486 12441 12471 1 0 3 12488 12441 12523 1 0 2
  12488 12531 1 0 2 12490 12494 1 0 3 12494 12483 12488 1 0 3 12495 12452 12484 1 0 6 12495 12442
  12540 12475 12531 12488 1 0 4 12495 12442 12540 12484 1 0 5 12495 12441 12540 12524 12523 1 0 6
  12498 12442 12450 12473 12488 12523 1 0 4 12498 12442 12463 12523 1 0 3 12498 12442 12467 1 0 3
  12498 12441 12523 1 0 6 12501 12449 12521 12483 12488 12441 1 0 4 12501 12451 12540 12488 1 0 6
  12501 12441 12483 12471 12455 12523 1 0 3 12501 12521 12531 1 0 5 12504 12463 12479 12540 12523
  1 0 3 12504 12442 12477 1 0 4 12504 12442 12491 12498 1 0 3 12504 12523 12484 1 0 4 12504 12442
  12531 12473 1 0 5 12504 12442 12540 12471 12441 1 0 4 12504 12441 12540 12479 1 0 5 12507 12442
  12452 12531 12488 1 0 4 12507 12441 12523 12488 1 0 2 12507 12531 1 0 5 12507 12442 12531 12488
  12441 1 0 3 12507 12540 12523 1 0 3 12507 12540 12531 1 0 4 12510 12452 12463 12525 1 0 3 12510
  12452 12523 1 0 3 12510 12483 12495 1 0 3 12510 12523 12463 1 0 5 12510 12531 12471 12519 12531
  1 0 4 12511 12463 12525 12531 1 0 2 12511 12522 1 0 6 12511 12522 12495 12441 12540 12523 1 0 3
  12513 12459 12441 1 0 5 12513 12459 12441 12488 12531 1 0 4 12513 12540 12488 12523 1 0 4 12516
  12540 12488 12441 1 0 3 12516 12540 12523 1 0 3 12518 12450 12531 1 0 4 12522 12483 12488 12523
  1 0 2 12522 12521 1 0 4 12523 12498 12442 12540 1 0 5 12523 12540 12501 12441 12523 1 0 2 12524
  12512 1 0 6 12524 12531 12488 12465 12441 12531 1 0 3 12527 12483 12488 1 0 2 48 28857 1 0 2 49
  28857 1 0 2 50 28857 1 0 2 51 28857 1 0 2 52 28857 1 0 2 53 28857 1 0 2 54 28857 1 0 2 55 28857
  1 0 2 56 28857 1 0 2 57 28857 1 0 3 49 48 28857 1 0 3 49 49 28857 1 0 3 49 50 28857 1 0 3 49 51
  28857 1 0 3 49 52 28857 1 0 3 49 53 28857 1 0 3 49 54 28857 1 0 3 49 55 28857 1 0 3 49 56 28857
  1 0 3 49 57 28857 1 0 3 50 48 28857 1 0 3 50 49 28857 1 0 3 50 50 28857 1 0 3 50 51 28857 1 0 3
  50 52 28857 1 0 3 104 80 97 1 0 2 100 97 1 0 2 65 85 1 0 3 98 97 114 1 0 2 111 86 1 0 2 112 99 1
  0 2 100 109 1 0 3 100 109 50 1 0 3 100 109 51 1 0 2 73 85 1 0 2 24179 25104 1 0 2 26157 21644 1
  0 2 22823 27491 1 0 2 26126 27835 1 0 4 26666 24335 20250 31038 1 0 2 112 65 1 0 2 110 65 1 0 2
  956 65 1 0 2 109 65 1 0 2 107 65 1 0 2 75 66 1 0 2 77 66 1 0 2 71 66 1 0 3 99 97 108 1 0 4 107
  99 97 108 1 0 2 112 70 1 0 2 110 70 1 0 2 956 70 1 0 2 956 103 1 0 2 109 103 1 0 2 107 103 1 0 2
  72 122 1 0 3 107 72 122 1 0 3 77 72 122 1 0 3 71 72 122 1 0 3 84 72 122 1 0 2 956 108 1 0 2 109
  108 1 0 2 100 108 1 0 2 107 108 1 0 2 102 109 1 0 2 110 109 1 0 2 956 109 1 0 2 109 109 1 0 2 99
  109 1 0 2 107 109 1 0 3 109 109 50 1 0 3 99 109 50 1 0 2 109 50 1 0 3 107 109 50 1 0 3 109 109
  51 1 0 3 99 109 51 1 0 2 109 51 1 0 3 107 109 51 1 0 3 109 8725 115 1 0 4 109 8725 115 50 1 0 2
  80 97 1 0 3 107 80 97 1 0 3 77 80 97 1 0 3 71 80 97 1 0 3 114 97 100 1 0 5 114 97 100 8725 115 1
  0 6 114 97 100 8725 115 50 1 0 2 112 115 1 0 2 110 115 1 0 2 956 115 1 0 2 109 115 1 0 2 112 86
  1 0 2 110 86 1 0 2 956 86 1 0 2 109 86 1 0 2 107 86 1 0 2 77 86 1 0 2 112 87 1 0 2 110 87 1 0 2
  956 87 1 0 2 109 87 1 0 2 107 87 1 0 2 77 87 1 0 2 107 937 1 0 2 77 937 1 0 4 97 46 109 46 1 0 2
  66 113 1 0 2 99 99 1 0 2 99 100 1 0 4 67 8725 107 103 1 0 3 67 111 46 1 0 2 100 66 1 0 2 71 121
  1 0 2 104 97 1 0 2 72 80 1 0 2 105 110 1 0 2 75 75 1 0 2 75 77 1 0 2 107 116 1 0 2 108 109 1 0 2
  108 110 1 0 3 108 111 103 1 0 2 108 120 1 0 2 109 98 1 0 3 109 105 108 1 0 3 109 111 108 1 0 2
  80 72 1 0 4 112 46 109 46 1 0 3 80 80 77 1 0 2 80 82 1 0 2 115 114 1 0 2 83 118 1 0 2 87 98 1 0
  3 86 8725 109 1 0 3 65 8725 109 1 0 2 49 26085 1 0 2 50 26085 1 0 2 51 26085 1 0 2 52 26085 1 0
  2 53 26085 1 0 2 54 26085 1 0 2 55 26085 1 0 2 56 26085 1 0 2 57 26085 1 0 3 49 48 26085 1 0 3
  49 49 26085 1 0 3 49 50 26085 1 0 3 49 51 26085 1 0 3 49 52 26085 1 0 3 49 53 26085 1 0 3 49 54
  26085 1 0 3 49 55 26085 1 0 3 49 56 26085 1 0 3 49 57 26085 1 0 3 50 48 26085 1 0 3 50 49 26085
  1 0 3 50 50 26085 1 0 3 50 51 26085 1 0 3 50 52 26085 1 0 3 50 53 26085 1 0 3 50 54 26085 1 0 3
  50 55 26085 1 0 3 50 56 26085 1 0 3 50 57 26085 1 0 3 51 48 26085 1 0 3 51 49 26085 1 0 3 103 97
  108 29341 0 1 1098 1 0 1 1100 211 0 1 42863 130 0 1 67 1 0 1 70 1 0 1 81 4 0 1 294 1 0 1 339 867
  0 1 42791 1 0 1 43831 1 0 1 619 1 0 1 43858 10 0 1 653 19863 0 1 35912 1 0 1 26356 1 0 1 36554 1
  0 1 36040 1 0 1 28369 1 0 1 20018 1 0 1 21477 1 0 1 40860 1 0 1 40860 1 0 1 22865 1 0 1 37329 1
  0 1 21895 1 0 1 22856 1 0 1 25078 1 0 1 30313 1 0 1 32645 1 0 1 34367 1 0 1 34746 1 0 1 35064 1
  0 1 37007 1 0 1 27138 1 0 1 27931 1 0 1 28889 1 0 1 29662 1 0 1 33853 1 0 1 37226 1 0 1 39409 1
  0 1 20098 1 0 1 21365 1 0 1 27396 1 0 1 29211 1 0 1 34349 1 0 1 40478 1 0 1 23888 1 0 1 28651 1
  0 1 34253 1 0 1 35172 1 0 1 25289 1 0 1 33240 1 0 1 34847 1 0 1 24266 1 0 1 26391 1 0 1 28010 1
  0 1 29436 1 0 1 37070 1 0 1 20358 1 0 1 20919 1 0 1 21214 1 0 1 25796 1 0 1 27347 1 0 1 29200 1
  0 1 30439 1 0 1 32769 1 0 1 34310 1 0 1 34396 1 0 1 36335 1 0 1 38706 1 0 1 39791 1 0 1 40442 1
  0 1 30860 1 0 1 31103 1 0 1 32160 1 0 1 33737 1 0 1 37636 1 0 1 40575 1 0 1 35542 1 0 1 22751 1
  0 1 24324 1 0 1 31840 1 0 1 32894 1 0 1 29282 1 0 1 30922 1 0 1 36034 1 0 1 38647 1 0 1 22744 1
  0 1 23650 1 0 1 27155 1 0 1 28122 1 0 1 28431 1 0 1 32047 1 0 1 32311 1 0 1 38475 1 0 1 21202 1
  0 1 32907 1 0 1 20956 1 0 1 20940 1 0 1 31260 1 0 1 32190 1 0 1 33777 1 0 1 38517 1 0 1 35712 1
  0 1 25295 1 0 1 27138 1 0 1 35582 1 0 1 20025 1 0 1 23527 1 0 1 24594 1 0 1 29575 1 0 1 30064 1
  0 1 21271 1 0 1 30971 1 0 1 20415 1 0 1 24489 1 0 1 19981 1 0 1 27852 1 0 1 25976 1 0 1 32034 1
  0 1 21443 1 0 1 22622 1 0 1 30465 1 0 1 33865 1 0 1 35498 1 0 1 27578 1 0 1 36784 1 0 1 27784 1
  0 1 25342 1 0 1 33509 1 0 1 25504 1 0 1 30053 1 0 1 20142 1 0 1 20841 1 0 1 20937 1 0 1 26753 1
  0 1 31975 1 0 1 33391 1 0 1 35538 1 0 1 37327 1 0 1 21237 1 0 1 21570 1 0 1 22899 1 0 1 24300 1
  0 1 26053 1 0 1 28670 1 0 1 31018 1 0 1 38317 1 0 1 39530 1 0 1 40599 1 0 1 40654 1 0 1 21147 1
  0 1 26310 1 0 1 27511 1 0 1 36706 1 0 1 24180 1 0 1 24976 1 0 1 25088 1 0 1 25754 1 0 1 28451 1
  0 1 29001 1 0 1 29833 1 0 1 31178 1 0 1 32244 1 0 1 32879 1 0 1 36646 1 0 1 34030 1 0 1 36899 1
  0 1 37706 1 0 1 21015 1 0 1 21155 1 0 1 21693 1 0 1 28872 1 0 1 35010 1 0 1 35498 1 0 1 24265 1
  0 1 24565 1 0 1 25467 1 0 1 27566 1 0 1 31806 1 0 1 29557 1 0 1 20196 1 0 1 22265 1 0 1 23527 1
  0 1 23994 1 0 1 24604 1 0 1 29618 1 0 1 29801 1 0 1 32666 1 0 1 32838 1 0 1 37428 1 0 1 38646 1
  0 1 38728 1 0 1 38936 1 0 1 20363 1 0 1 31150 1 0 1 37300 1 0 1 38584 1 0 1 24801 1 0 1 20102 1
  0 1 20698 1 0 1 23534 1 0 1 23615 1 0 1 26009 1 0 1 27138 1 0 1 29134 1 0 1 30274 1 0 1 34044 1
  0 1 36988 1 0 1 40845 1 0 1 26248 1 0 1 38446 1 0 1 21129 1 0 1 26491 1 0 1 26611 1 0 1 27969 1
  0 1 28316 1 0 1 29705 1 0 1 30041 1 0 1 30827 1 0 1 32016 1 0 1 39006 1 0 1 20845 1 0 1 25134 1
  0 1 38520 1 0 1 20523 1 0 1 23833 1 0 1 28138 1 0 1 36650 1 0 1 24459 1 0 1 24900 1 0 1 26647 1
  0 1 29575 1 0 1 38534 1 0 1 21033 1 0 1 21519 1 0 1 23653 1 0 1 26131 1 0 1 26446 1 0 1 26792 1
  0 1 27877 1 0 1 29702 1 0 1 30178 1 0 1 32633 1 0 1 35023 1 0 1 35041 1 0 1 37324 1 0 1 38626 1
  0 1 21311 1 0 1 28346 1 0 1 21533 1 0 1 29136 1 0 1 29848 1 0 1 34298 1 0 1 38563 1 0 1 40023 1
  0 1 40607 1 0 1 26519 1 0 1 28107 1 0 1 33256 1 0 1 31435 1 0 1 31520 1 0 1 31890 1 0 1 29376 1
  0 1 28825 1 0 1 35672 1 0 1 20160 1 0 1 33590 1 0 1 21050 1 0 1 20999 1 0 1 24230 1 0 1 25299 1
  0 1 31958 1 0 1 23429 1 0 1 27934 1 0 1 26292 1 0 1 36667 1 0 1 34892 1 0 1 38477 1 0 1 35211 1
  0 1 24275 1 0 1 20800 1 0 1 21952 3 0 1 22618 2 0 1 26228 3 0 1 20958 1 0 1 29482 1 0 1 30410 1
  0 1 31036 1 0 1 31070 1 0 1 31077 1 0 1 31119 1 0 1 38742 1 0 1 31934 1 0 1 32701 2 0 1 34322 2
  0 1 35576 3 0 1 36920 1 0 1 37117 4 0 1 39151 1 0 1 39164 1 0 1 39208 1 0 1 40372 1 0 1 37086 1
  0 1 38583 1 0 1 20398 1 0 1 20711 1 0 1 20813 1 0 1 21193 1 0 1 21220 1 0 1 21329 1 0 1 21917 1
  0 1 22022 1 0 1 22120 1 0 1 22592 1 0 1 22696 1 0 1 23652 1 0 1 23662 1 0 1 24724 1 0 1 24936 1
  0 1 24974 1 0 1 25074 1 0 1 25935 1 0 1 26082 1 0 1 26257 1 0 1 26757 1 0 1 28023 1 0 1 28186 1
  0 1 28450 1 0 1 29038 1 0 1 29227 1 0 1 29730 1 0 1 30865 1 0 1 31038 1 0 1 31049 1 0 1 31048 1
  0 1 31056 1 0 1 31062 1 0 1 31069 1 1 1 31117 2 0 1 31296 1 0 1 31361 1 0 1 31680 1 0 1 32244 1
  0 1 32265 1 0 1 32321 1 0 1 32626 1 0 1 32773 1 0 1 33261 1 0 1 33401 1 0 1 33401 1 0 1 33879 1
  0 1 35088 1 0 1 35222 1 0 1 35585 1 0 1 35641 1 0 1 36051 1 0 1 36104 1 0 1 36790 1 0 1 36920 1
  0 1 38627 1 0 1 38911 1 0 1 38971 1 0 1 24693 1 0 1 148206 1 0 1 33304 3 0 1 20006 1 0 1 20917 1
  0 1 20840 1 0 1 20352 1 0 1 20805 1 0 1 20864 1 0 1 21191 1 0 1 21242 1 0 1 21917 1 0 1 21845 1
  0 1 21913 1 0 1 21986 1 0 1 22618 1 0 1 22707 1 0 1 22852 1 0 1 22868 1 0 1 23138 1 0 1 23336 1
  0 1 24274 1 0 1 24281 1 0 1 24425 1 0 1 24493 1 0 1 24792 1 0 1 24910 1 0 1 24840 1 0 1 24974 1
  0 1 24928 1 0 1 25074 1 0 1 25140 1 0 1 25540 1 0 1 25628 1 0 1 25682 1 0 1 25942 1 0 1 26228 1
  0 1 26391 1 0 1 26395 1 0 1 26454 1 0 1 27513 1 0 1 27578 1 0 1 27969 1 0 1 28379 1 0 1 28363 1
  0 1 28450 1 0 1 28702 1 0 1 29038 1 0 1 30631 1 0 1 29237 1 0 1 29359 1 0 1 29482 1 0 1 29809 1
  0 1 29958 1 0 1 30011 1 0 1 30237 1 0 1 30239 1 0 1 30410 1 0 1 30427 1 0 1 30452 1 0 1 30538 1
  0 1 30528 1 0 1 30924 1 0 1 31409 1 0 1 31680 1 0 1 31867 1 0 1 32091 1 0 1 32244 1 0 1 32574 1
  0 1 32773 1 0 1 33618 1 0 1 33775 1 0 1 34681 1 0 1 35137 1 0 1 35206 1 0 1 35222 1 0 1 35519 1
  0 1 35576 1 0 1 35531 1 0 1 35585 1 0 1 35582 1 0 1 35565 1 0 1 35641 1 0 1 35722 1 0 1 36104 1
  0 1 36664 1 0 1 36978 1 0 1 37273 1 0 1 37494 1 0 1 38524 1 0 1 38627 1 0 1 38742 1 0 1 38875 1
  0 1 38911 1 0 1 38923 1 0 1 38971 1 0 1 39698 1 0 1 40860 1 0 1 141386 1 0 1 141380 1 0 1 144341
  1 0 1 15261 1 0 1 16408 1 0 1 16441 1 0 1 152137 1 0 1 154832 1 0 1 163539 1 0 1 40771 1 0 1
  40846 39 0 2 102 102 1 0 2 102 105 1 0 2 102 108 1 0 3 102 102 105 1 0 3 102 102 108 1 0 2 115
  116 1 0 2 115 116 13 0 2 1396 1398 1 0 2 1396 1381 1 0 2 1396 1387 1 0 2 1406 1398 1 0 2 1396
  1389 6 0 2 1497 1460 2 0 2 1522 1463 1 0 1 1506 1 0 1 1488 1 1 1 1491 2 2 1 1499 3 0 1 1512 1 0
  1 1514 1 0 1 43 1 0 2 1513 1473 1 0 2 1513 1474 1 0 3 1513 1468 1473 1 0 3 1513 1468 1474 1 0 2
  1488 1463 1 0 2 1488 1464 1 0 2 1488 1468 1 0 2 1489 1468 1 0 2 1490 1468 1 0 2 1491 1468 1 0 2
  1492 1468 1 0 2 1493 1468 1 0 2 1494 1468 2 0 2 1496 1468 1 0 2 1497 1468 1 0 2 1498 1468 1 0 2
  1499 1468 1 0 2 1500 1468 2 0 2 1502 1468 2 0 2 1504 1468 1 0 2 1505 1468 2 0 2 1507 1468 1 0 2
  1508 1468 2 0 2 1510 1468 1 0 2 1511 1468 1 0 2 1512 1468 1 0 2 1513 1468 1 0 2 1514 1468 1 0 2
  1493 1465 1 0 2 1489 1471 1 0 2 1499 1471 1 0 2 1508 1471 1 0 2 1488 1500 1 0 1 1649 1 0 1 1649
  1 0 1 1659 1 0 1 1659 1 0 1 1659 1 0 1 1659 1 0 1 1662 1 0 1 1662 1 0 1 1662 1 0 1 1662 1 0 1
  1664 1 0 1 1664 1 0 1 1664 1 0 1 1664 1 0 1 1658 1 0 1 1658 1 0 1 1658 1 0 1 1658 1 0 1 1663 1 0
  1 1663 1 0 1 1663 1 0 1 1663 1 0 1 1657 1 0 1 1657 1 0 1 1657 1 0 1 1657 1 0 1 1700 1 0 1 1700 1
  0 1 1700 1 0 1 1700 1 0 1 1702 1 0 1 1702 1 0 1 1702 1 0 1 1702 1 0 1 1668 1 0 1 1668 1 0 1 1668
  1 0 1 1668 1 0 1 1667 1 0 1 1667 1 0 1 1667 1 0 1 1667 1 0 1 1670 1 0 1 1670 1 0 1 1670 1 1 1
  1670 2 0 1 1671 1 0 1 1671 1 0 1 1671 1 0 1 1677 1 0 1 1677 1 0 1 1676 1 0 1 1676 1 0 1 1678 1 0
  1 1678 1 0 1 1672 1 0 1 1672 1 0 1 1688 1 0 1 1688 1 0 1 1681 1 0 1 1681 1 0 1 1705 1 0 1 1705 1
  0 1 1705 1 0 1 1705 1 0 1 1711 1 0 1 1711 1 0 1 1711 1 0 1 1711 1 0 1 1715 1 0 1 1715 1 0 1 1715
  1 0 1 1715 1 0 1 1713 1 0 1 1713 1 0 1 1713 1 0 1 1713 1 0 1 1722 1 1 1 1722 2 0 1 1723 1 0 1
  1723 1 0 1 1723 1 0 2 1749 1620 1 0 2 1749 1620 1 0 1 1729 1 0 1 1729 1 0 1 1729 1 0 1 1729 1 0
  1 1726 1 0 1 1726 1 0 1 1726 1 0 1 1726 1 0 1 1746 1 0 1 1746 1 0 2 1746 1620 1 0 2 1746 1620 34
  0 1 1709 1 0 1 1709 1 0 1 1709 1 0 1 1709 1 0 1 1735 1 0 1 1735 1 0 1 1734 1 0 1 1734 1 0 1 1736
  1 0 1 1736 1 0 2 1735 1652 1 0 1 1739 1 0 1 1739 1 0 1 1733 1 0 1 1733 1 0 1 1737 1 0 1 1737 1 0
  1 1744 1 0 1 1744 1 0 1 1744 1 0 1 1744 1 0 1 1609 1 0 1 1609 1 0 3 1610 1620 1575 1 0 3 1610
  1620 1575 1 0 3 1610 1620 1749 1 0 3 1610 1620 1749 1 0 3 1610 1620 1608 1 0 3 1610 1620 1608 1
  0 3 1610 1620 1735 1 0 3 1610 1620 1735 1 0 3 1610 1620 1734 1 0 3 1610 1620 1734 1 0 3 1610
  1620 1736 1 0 3 1610 1620 1736 1 0 3 1610 1620 1744 1 0 3 1610 1620 1744 1 0 3 1610 1620 1744 1
  0 3 1610 1620 1609 1 0 3 1610 1620 1609 1 0 3 1610 1620 1609 1 0 1 1740 1 0 1 1740 1 0 1 1740 1
  0 1 1740 1 0 3 1610 1620 1580 1 0 3 1610 1620 1581 1 0 3 1610 1620 1605 1 0 3 1610 1620 1609 1 0
  3 1610 1620 1610 1 0 2 1576 1580 1 0 2 1576 1581 1 0 2 1576 1582 1 0 2 1576 1605 1 0 2 1576 1609
  1 0 2 1576 1610 1 0 2 1578 1580 1 0 2 1578 1581 1 0 2 1578 1582 1 0 2 1578 1605 1 0 2 1578 1609
  1 0 2 1578 1610 1 0 2 1579 1580 1 0 2 1579 1605 1 0 2 1579 1609 1 0 2 1579 1610 1 0 2 1580 1581
  1 0 2 1580 1605 1 0 2 1581 1580 1 0 2 1581 1605 1 0 2 1582 1580 1 0 2 1582 1581 1 0 2 1582 1605
  1 0 2 1587 1580 1 0 2 1587 1581 1 0 2 1587 1582 1 0 2 1587 1605 1 0 2 1589 1581 1 0 2 1589 1605
  1 0 2 1590 1580 1 0 2 1590 1581 1 0 2 1590 1582 1 0 2 1590 1605 1 0 2 1591 1581 1 0 2 1591 1605
  1 0 2 1592 1605 1 0 2 1593 1580 1 0 2 1593 1605 1 0 2 1594 1580 1 0 2 1594 1605 1 0 2 1601 1580
  1 0 2 1601 1581 1 0 2 1601 1582 1 0 2 1601 1605 1 0 2 1601 1609 1 0 2 1601 1610 1 0 2 1602 1581
  1 0 2 1602 1605 1 0 2 1602 1609 1 0 2 1602 1610 1 0 2 1603 1575 1 0 2 1603 1580 1 0 2 1603 1581
  1 0 2 1603 1582 1 0 2 1603 1604 1 0 2 1603 1605 1 0 2 1603 1609 1 0 2 1603 1610 1 0 2 1604 1580
  1 0 2 1604 1581 1 0 2 1604 1582 1 0 2 1604 1605 1 0 2 1604 1609 1 0 2 1604 1610 1 0 2 1605 1580
  1 0 2 1605 1581 1 0 2 1605 1582 1 0 2 1605 1605 1 0 2 1605 1609 1 0 2 1605 1610 1 0 2 1606 1580
  1 0 2 1606 1581 1 0 2 1606 1582 1 0 2 1606 1605 1 0 2 1606 1609 1 0 2 1606 1610 1 0 2 1607 1580
  1 0 2 1607 1605 1 0 2 1607 1609 1 0 2 1607 1610 1 0 2 1610 1580 1 0 2 1610 1581 1 0 2 1610 1582
  1 0 2 1610 1605 1 0 2 1610 1609 1 0 2 1610 1610 1 0 2 1584 1648 1 0 2 1585 1648 1 0 2 1609 1648
  1 0 3 32 1612 1617 1 0 3 32 1613 1617 1 0 3 32 1614 1617 1 0 3 32 1615 1617 1 0 3 32 1616 1617 1
  0 3 32 1617 1648 1 0 3 1610 1620 1585 1 0 3 1610 1620 1586 1 0 3 1610 1620 1605 1 0 3 1610 1620
  1606 1 0 3 1610 1620 1609 1 0 3 1610 1620 1610 1 0 2 1576 1585 1 0 2 1576 1586 1 0 2 1576 1605 1
  0 2 1576 1606 1 0 2 1576 1609 1 0 2 1576 1610 1 0 2 1578 1585 1 0 2 1578 1586 1 0 2 1578 1605 1
  0 2 1578 1606 1 0 2 1578 1609 1 0 2 1578 1610 1 0 2 1579 1585 1 0 2 1579 1586 1 0 2 1579 1605 1
  0 2 1579 1606 1 0 2 1579 1609 1 0 2 1579 1610 1 0 2 1601 1609 1 0 2 1601 1610 1 0 2 1602 1609 1
  0 2 1602 1610 1 0 2 1603 1575 1 0 2 1603 1604 1 0 2 1603 1605 1 0 2 1603 1609 1 0 2 1603 1610 1
  0 2 1604 1605 1 0 2 1604 1609 1 0 2 1604 1610 1 0 2 1605 1575 1 0 2 1605 1605 1 0 2 1606 1585 1
  0 2 1606 1586 1 0 2 1606 1605 1 0 2 1606 1606 1 0 2 1606 1609 1 0 2 1606 1610 1 0 2 1609 1648 1
  0 2 1610 1585 1 0 2 1610 1586 1 0 2 1610 1605 1 0 2 1610 1606 1 0 2 1610 1609 1 0 2 1610 1610 1
  0 3 1610 1620 1580 1 0 3 1610 1620 1581 1 0 3 1610 1620 1582 1 0 3 1610 1620 1605 1 0 3 1610
  1620 1607 1 0 2 1576 1580 1 0 2 1576 1581 1 0 2 1576 1582 1 0 2 1576 1605 1 0 2 1576 1607 1 0 2
  1578 1580 1 0 2 1578 1581 1 0 2 1578 1582 1 0 2 1578 1605 1 0 2 1578 1607 1 0 2 1579 1605 1 0 2
  1580 1581 1 0 2 1580 1605 1 0 2 1581 1580 1 0 2 1581 1605 1 0 2 1582 1580 1 0 2 1582 1605 1 0 2
  1587 1580 1 0 2 1587 1581 1 0 2 1587 1582 1 0 2 1587 1605 1 0 2 1589 1581 1 0 2 1589 1582 1 0 2
  1589 1605 1 0 2 1590 1580 1 0 2 1590 1581 1 0 2 1590 1582 1 0 2 1590 1605 1 0 2 1591 1581 1 0 2
  1592 1605 1 0 2 1593 1580 1 0 2 1593 1605 1 0 2 1594 1580 1 0 2 1594 1605 1 0 2 1601 1580 1 0 2
  1601 1581 1 0 2 1601 1582 1 0 2 1601 1605 1 0 2 1602 1581 1 0 2 1602 1605 1 0 2 1603 1580 1 0 2
  1603 1581 1 0 2 1603 1582 1 0 2 1603 1604 1 0 2 1603 1605 1 0 2 1604 1580 1 0 2 1604 1581 1 0 2
  1604 1582 1 0 2 1604 1605 1 0 2 1604 1607 1 0 2 1605 1580 1 0 2 1605 1581 1 0 2 1605 1582 1 0 2
  1605 1605 1 0 2 1606 1580 1 0 2 1606 1581 1 0 2 1606 1582 1 0 2 1606 1605 1 0 2 1606 1607 1 0 2
  1607 1580 1 0 2 1607 1605 1 0 2 1607 1648 1 0 2 1610 1580 1 0 2 1610 1581 1 0 2 1610 1582 1 0 2
  1610 1605 1 0 2 1610 1607 1 0 3 1610 1620 1605 1 0 3 1610 1620 1607 1 0 2 1576 1605 1 0 2 1576
  1607 1 0 2 1578 1605 1 0 2 1578 1607 1 0 2 1579 1605 1 0 2 1579 1607 1 0 2 1587 1605 1 0 2 1587
  1607 1 0 2 1588 1605 1 0 2 1588 1607 1 0 2 1603 1604 1 0 2 1603 1605 1 0 2 1604 1605 1 0 2 1606
  1605 1 0 2 1606 1607 1 0 2 1610 1605 1 0 2 1610 1607 1 0 3 1600 1614 1617 1 0 3 1600 1615 1617 1
  0 3 1600 1616 1617 1 0 2 1591 1609 1 0 2 1591 1610 1 0 2 1593 1609 1 0 2 1593 1610 1 0 2 1594
  1609 1 0 2 1594 1610 1 0 2 1587 1609 1 0 2 1587 1610 1 0 2 1588 1609 1 0 2 1588 1610 1 0 2 1581
  1609 1 0 2 1581 1610 1 0 2 1580 1609 1 0 2 1580 1610 1 0 2 1582 1609 1 0 2 1582 1610 1 0 2 1589
  1609 1 0 2 1589 1610 1 0 2 1590 1609 1 0 2 1590 1610 1 0 2 1588 1580 1 0 2 1588 1581 1 0 2 1588
  1582 1 0 2 1588 1605 1 0 2 1588 1585 1 0 2 1587 1585 1 0 2 1589 1585 1 0 2 1590 1585 1 0 2 1591
  1609 1 0 2 1591 1610 1 0 2 1593 1609 1 0 2 1593 1610 1 0 2 1594 1609 1 0 2 1594 1610 1 0 2 1587
  1609 1 0 2 1587 1610 1 0 2 1588 1609 1 0 2 1588 1610 1 0 2 1581 1609 1 0 2 1581 1610 1 0 2 1580
  1609 1 0 2 1580 1610 1 0 2 1582 1609 1 0 2 1582 1610 1 0 2 1589 1609 1 0 2 1589 1610 1 0 2 1590
  1609 1 0 2 1590 1610 1 0 2 1588 1580 1 0 2 1588 1581 1 0 2 1588 1582 1 0 2 1588 1605 1 0 2 1588
  1585 1 0 2 1587 1585 1 0 2 1589 1585 1 0 2 1590 1585 1 0 2 1588 1580 1 0 2 1588 1581 1 0 2 1588
  1582 1 0 2 1588 1605 1 0 2 1587 1607 1 0 2 1588 1607 1 0 2 1591 1605 1 0 2 1587 1580 1 0 2 1587
  1581 1 0 2 1587 1582 1 0 2 1588 1580 1 0 2 1588 1581 1 0 2 1588 1582 1 0 2 1591 1605 1 0 2 1592
  1605 1 0 2 1575 1611 1 0 2 1575 1611 19 0 3 1578 1580 1605 1 0 3 1578 1581 1580 1 0 3 1578 1581
  1580 1 0 3 1578 1581 1605 1 0 3 1578 1582 1605 1 0 3 1578 1605 1580 1 0 3 1578 1605 1581 1 0 3
  1578 1605 1582 1 0 3 1580 1605 1581 1 0 3 1580 1605 1581 1 0 3 1581 1605 1610 1 0 3 1581 1605
  1609 1 0 3 1587 1581 1580 1 0 3 1587 1580 1581 1 0 3 1587 1580 1609 1 0 3 1587 1605 1581 1 0 3
  1587 1605 1581 1 0 3 1587 1605 1580 1 0 3 1587 1605 1605 1 0 3 1587 1605 1605 1 0 3 1589 1581
  1581 1 0 3 1589 1581 1581 1 0 3 1589 1605 1605 1 0 3 1588 1581 1605 1 0 3 1588 1581 1605 1 0 3
  1588 1580 1610 1 0 3 1588 1605 1582 1 0 3 1588 1605 1582 1 0 3 1588 1605 1605 1 0 3 1588 1605
  1605 1 0 3 1590 1581 1609 1 0 3 1590 1582 1605 1 0 3 1590 1582 1605 1 0 3 1591 1605 1581 1 0 3
  1591 1605 1581 1 0 3 1591 1605 1605 1 0 3 1591 1605 1610 1 0 3 1593 1580 1605 1 0 3 1593 1605
  1605 1 0 3 1593 1605 1605 1 0 3 1593 1605 1609 1 0 3 1594 1605 1605 1 0 3 1594 1605 1610 1 0 3
  1594 1605 1609 1 0 3 1601 1582 1605 1 0 3 1601 1582 1605 1 0 3 1602 1605 1581 1 0 3 1602 1605
  1605 1 0 3 1604 1581 1605 1 0 3 1604 1581 1610 1 0 3 1604 1581 1609 1 0 3 1604 1580 1580 1 0 3
  1604 1580 1580 1 0 3 1604 1582 1605 1 0 3 1604 1582 1605 1 0 3 1604 1605 1581 1 0 3 1604 1605
  1581 1 0 3 1605 1581 1580 1 0 3 1605 1581 1605 1 0 3 1605 1581 1610 1 0 3 1605 1580 1581 1 0 3
  1605 1580 1605 1 0 3 1605 1582 1580 1 0 3 1605 1582 1605 3 0 3 1605 1580 1582 1 0 3 1607 1605
  1580 1 0 3 1607 1605 1605 1 0 3 1606 1581 1605 1 0 3 1606 1581 1609 1 0 3 1606 1580 1605 1 0 3
  1606 1580 1605 1 0 3 1606 1580 1609 1 0 3 1606 1605 1610 1 0 3 1606 1605 1609 1 0 3 1610 1605
  1605 1 0 3 1610 1605 1605 1 0 3 1576 1582 1610 1 0 3 1578 1580 1610 1 0 3 1578 1580 1609 1 0 3
  1578 1582 1610 1 0 3 1578 1582 1609 1 0 3 1578 1605 1610 1 0 3 1578 1605 1609 1 0 3 1580 1605
  1610 1 0 3 1580 1581 1609 1 0 3 1580 1605 1609 1 0 3 1587 1582 1609 1 0 3 1589 1581 1610 1 0 3
  1588 1581 1610 1 0 3 1590 1581 1610 1 0 3 1604 1580 1610 1 0 3 1604 1605 1610 1 0 3 1610 1581
  1610 1 0 3 1610 1580 1610 1 0 3 1610 1605 1610 1 0 3 1605 1605 1610 1 0 3 1602 1605 1610 1 0 3
  1606 1581 1610 1 0 3 1602 1605 1581 1 0 3 1604 1581 1605 1 0 3 1593 1605 1610 1 0 3 1603 1605
  1610 1 0 3 1606 1580 1581 1 0 3 1605 1582 1610 1 0 3 1604 1580 1605 1 0 3 1603 1605 1605 1 0 3
  1604 1580 1605 1 0 3 1606 1580 1581 1 0 3 1580 1581 1610 1 0 3 1581 1580 1610 1 0 3 1605 1580
  1610 1 0 3 1601 1605 1610 1 0 3 1576 1581 1610 1 0 3 1603 1605 1605 1 0 3 1593 1580 1605 1 0 3
  1589 1605 1605 1 0 3 1587 1582 1610 1 0 3 1606 1580 1610 41 0 3 1589 1604 1746 1 0 3 1602 1604
  1746 1 0 4 1575 1604 1604 1607 1 0 4 1575 1603 1576 1585 1 0 4 1605 1581 1605 1583 1 0 4 1589
  1604 1593 1605 1 0 4 1585 1587 1608 1604 1 0 4 1593 1604 1610 1607 1 0 4 1608 1587 1604 1605 1 0
  3 1589 1604 1609 1 0 18 1589 1604 1609 32 1575 1604 1604 1607 32 1593 1604 1610 1607 32 1608
  1587 1604 1605 1 0 8 1580 1604 32 1580 1604 1575 1604 1607 1 0 4 1585 1740 1575 1604 20 0 1 44 1
  1 1 12289 2 1 1 58 2 0 1 33 1 0 1 63 1 1 1 12310 2 0 3 46 46 46 23 0 2 46 46 1 0 1 8212 1 0 1
  8211 1 0 1 95 1 0 1 95 1 1 1 40 2 0 1 123 1 0 1 125 1 1 1 12308 2 1 1 12304 2 1 1 12298 2 1 1
  12296 2 3 1 12300 6 0 1 91 1 0 1 93 1 0 2 32 773 1 0 2 32 773 1 0 2 32 773 1 0 2 32 773 1 0 1 95
  1 0 1 95 1 0 1 95 1 0 1 44 1 0 1 12289 1 0 1 46 2 0 1 59 1 0 1 58 1 0 1 63 1 0 1 33 1 0 1 8212 1
  1 1 40 2 0 1 123 1 0 1 125 1 1 1 12308 2 0 1 35 1 0 1 38 1 1 1 42 2 0 1 45 1 0 1 60 1 0 1 62 1 0
  1 61 2 0 1 92 1 1 1 36 2 0 1 64 5 0 2 32 1611 1 0 2 1600 1611 1 0 2 32 1612 2 0 2 32 1613 2 0 2
  32 1614 1 0 2 1600 1614 1 0 2 32 1615 1 0 2 1600 1615 1 0 2 32 1616 1 0 2 1600 1616 1 0 2 32
  1617 1 0 2 1600 1617 1 0 2 32 1618 1 0 2 1600 1618 1 0 1 1569 1 0 2 1575 1619 1 0 2 1575 1619 1
  0 2 1575 1620 1 0 2 1575 1620 1 0 2 1608 1620 1 0 2 1608 1620 1 0 2 1575 1621 1 0 2 1575 1621 1
  0 2 1610 1620 1 0 2 1610 1620 1 0 2 1610 1620 1 0 2 1610 1620 1 0 1 1575 1 1 1 1575 2 0 1 1576 1
  0 1 1576 1 1 1 1576 2 1 1 1577 2 0 1 1578 1 0 1 1578 1 1 1 1578 2 0 1 1579 1 0 1 1579 1 1 1 1579
  2 0 1 1580 1 0 1 1580 1 1 1 1580 2 0 1 1581 1 0 1 1581 1 1 1 1581 2 0 1 1582 1 0 1 1582 1 1 1
  1582 2 1 1 1583 2 1 1 1584 2 1 1 1585 2 1 1 1586 2 0 1 1587 1 0 1 1587 1 1 1 1587 2 0 1 1588 1 0
  1 1588 1 1 1 1588 2 0 1 1589 1 0 1 1589 1 1 1 1589 2 0 1 1590 1 0 1 1590 1 1 1 1590 2 0 1 1591 1
  0 1 1591 1 1 1 1591 2 0 1 1592 1 0 1 1592 1 1 1 1592 2 0 1 1593 1 0 1 1593 1 1 1 1593 2 0 1 1594
  1 0 1 1594 1 0 1 1594 1 0 1 1601 1 0 1 1601 1 0 1 1601 1 1 1 1601 2 0 1 1602 1 0 1 1602 1 1 1
  1602 2 0 1 1603 1 0 1 1603 1 1 1 1603 2 0 1 1604 1 0 1 1604 1 1 1 1604 2 0 1 1605 1 0 1 1605 1 1
  1 1605 2 0 1 1606 1 0 1 1606 1 1 1 1606 2 0 1 1607 1 0 1 1607 1 1 1 1607 2 1 1 1608 2 1 1 1609 2
  0 1 1610 1 0 1 1610 1 0 1 1610 1 0 3 1604 1575 1619 1 0 3 1604 1575 1619 1 0 3 1604 1575 1620 1
  0 3 1604 1575 1620 1 0 3 1604 1575 1621 1 0 3 1604 1575 1621 1 0 2 1604 1575 1 0 2 1604 1575 5
  93 1 33 94 1 1 10629 2 0 1 12290 1 1 1 12300 2 0 1 12289 1 0 1 12539 1 0 1 12530 1 0 1 12449 1 0
  1 12451 1 0 1 12453 1 0 1 12455 1 0 1 12457 1 0 1 12515 1 0 1 12517 1 0 1 12519 1 0 1 12483 1 0
  1 12540 1 0 1 12450 1 0 1 12452 1 0 1 12454 1 0 1 12456 1 1 1 12458 2 0 1 12461 1 0 1 12463 1 0
  1 12465 1 0 1 12467 1 0 1 12469 1 0 1 12471 1 0 1 12473 1 0 1 12475 1 0 1 12477 1 0 1 12479 1 0
  1 12481 1 0 1 12484 1 0 1 12486 1 0 1 12488 1 5 1 12490 6 0 1 12498 1 0 1 12501 1 0 1 12504 1 0
  1 12507 1 4 1 12510 5 0 1 12516 1 0 1 12518 1 5 1 12520 6 0 1 12527 1 0 1 12531 1 1 1 12441 2 0
  1 4448 1 1 1 4352 2 0 1 4522 1 0 1 4354 1 1 1 4524 2 2 1 4355 3 5 1 4528 6 0 1 4378 1 2 1 4358 3
  0 1 4385 1 9 1 4361 13 5 1 4449 8 5 1 4455 8 5 1 4461 8 2 1 4467 6 1 1 162 2 0 1 172 1 0 2 32
  772 1 0 1 166 1 0 1 165 1 0 1 8361 2 0 1 9474 1 3 1 8592 4 0 1 9632 1 0 1 9675 1939 1 1 720 2 0
  1 230 1 0 1 665 1 0 1 595 2 0 1 675 1 0 1 43878 1 0 1 677 1 0 1 676 1 1 1 598 2 0 1 7569 1 0 1
  600 1 0 1 606 1 0 1 681 1 0 1 612 1 0 1 610 1 0 1 608 1 0 1 667 1 0 1 295 1 0 1 668 1 0 1 615 1
  0 1 644 1 1 1 682 2 0 1 620 1 0 1 122628 1 0 1 42894 1 0 1 622 1 0 1 122629 1 0 1 654 1 0 1
  122630 1 0 1 248 1 1 1 630 2 0 1 113 1 0 1 634 1 0 1 122632 1 1 1 637 2 0 1 640 1 0 1 680 1 0 1
  678 1 0 1 43879 1 0 1 679 1 0 1 648 1 0 1 11377 2 0 1 655 1 1 1 673 2 0 1 664 1 2 1 448 3 0 1
  122634 1 0 1 122654 2272 0 2 69785 69818 2 0 2 69787 69818 15 0 2 69797 69818 131 0 2 69937
  69927 1 0 2 69938 69927 540 0 2 70471 70462 1 0 2 70471 70487 367 0 2 70841 70842 1 0 2 70841
  70832 2 0 2 70841 70845 252 0 2 71096 71087 1 0 2 71097 71087 893 0 2 71989 71984 47142 0 2
  119127 119141 1 0 2 119128 119141 1 0 3 119128 119141 119150 1 0 3 119128 119141 119151 1 0 3
  119128 119141 119152 1 0 3 119128 119141 119153 1 0 3 119128 119141 119154 87 0 2 119225 119141
  1 0 2 119226 119141 1 0 3 119225 119141 119150 1 0 3 119226 119141 119150 1 0 3 119225 119141
  119151 1 0 3 119226 119141 119151 576 25 1 65 26 25 1 97 26 25 1 65 26 6 1 97 8 17 1 105 18 25 1
  65 26 25 1 97 26 0 1 65 2 1 1 67 4 0 1 71 3 1 1 74 4 3 1 78 5 7 1 83 8 3 1 97 5 0 1 102 2 6 1
  104 8 10 1 112 11 25 1 65 26 25 1 97 26 1 1 65 3 3 1 68 6 7 1 74 9 6 1 83 8 25 1 97 26 1 1 65 3
  3 1 68 5 4 1 73 6 0 1 79 4 6 1 83 8 25 1 97 26 25 1 65 26 25 1 97 26 25 1 65 26 25 1 97 26 25 1
  65 26 25 1 97 26 25 1 65 26 25 1 97 26 25 1 65 26 25 1 97 26 25 1 65 26 25 1 97 26 0 1 305 1 0 1
  567 3 16 1 913 17 0 1 920 1 6 1 931 7 0 1 8711 1 24 1 945 25 0 1 8706 1 0 1 949 1 0 1 952 1 0 1
  954 1 0 1 966 1 0 1 961 1 0 1 960 1 16 1 913 17 0 1 920 1 6 1 931 7 0 1 8711 1 24 1 945 25 0 1
  8706 1 0 1 949 1 0 1 952 1 0 1 954 1 0 1 966 1 0 1 961 1 0 1 960 1 16 1 913 17 0 1 920 1 6 1 931
  7 0 1 8711 1 24 1 945 25 0 1 8706 1 0 1 949 1 0 1 952 1 0 1 954 1 0 1 966 1 0 1 961 1 0 1 960 1
  16 1 913 17 0 1 920 1 6 1 931 7 0 1 8711 1 24 1 945 25 0 1 8706 1 0 1 949 1 0 1 952 1 0 1 954 1
  0 1 966 1 0 1 961 1 0 1 960 1 16 1 913 17 0 1 920 1 6 1 931 7 0 1 8711 1 24 1 945 25 0 1 8706 1
  0 1 949 1 0 1 952 1 0 1 954 1 0 1 966 1 0 1 961 1 0 1 960 1 1 1 988 4 9 1 48 10 9 1 48 10 9 1 48
  10 9 1 48 10 9 1 48 5642 1 1 1575 2 0 1 1580 1 0 1 1583 2 0 1 1608 1 0 1 1586 1 0 1 1581 1 0 1
  1591 1 0 1 1610 1 3 1 1603 4 0 1 1587 1 0 1 1593 1 0 1 1601 1 0 1 1589 1 0 1 1602 1 0 1 1585 1 0
  1 1588 1 1 1 1578 2 0 1 1582 1 0 1 1584 1 0 1 1590 1 0 1 1592 1 0 1 1594 1 0 1 1646 1 0 1 1722 1
  0 1 1697 1 0 1 1647 2 0 1 1576 1 0 1 1580 2 0 1 1607 3 0 1 1581 2 0 1 1610 1 3 1 1603 4 0 1 1587
  1 0 1 1593 1 0 1 1601 1 0 1 1589 1 0 1 1602 2 0 1 1588 1 1 1 1578 2 0 1 1582 2 0 1 1590 2 0 1
  1594 7 0 1 1580 5 0 1 1581 2 0 1 1610 2 0 1 1604 2 0 1 1606 1 0 1 1587 1 0 1 1593 2 0 1 1589 1 0
  1 1602 2 0 1 1588 3 0 1 1582 2 0 1 1590 2 0 1 1594 2 0 1 1722 2 0 1 1647 2 0 1 1576 1 0 1 1580 2
  0 1 1607 3 0 1 1581 1 0 1 1591 1 0 1 1610 1 0 1 1603 2 1 1 1605 2 0 1 1587 1 0 1 1593 1 0 1 1601
  1 0 1 1589 1 0 1 1602 2 0 1 1588 1 1 1 1578 2 0 1 1582 2 0 1 1590 1 0 1 1592 1 0 1 1594 1 0 1
  1646 2 0 1 1697 2 1 1 1575 2 0 1 1580 1 0 1 1583 1 1 1 1607 2 0 1 1586 1 0 1 1581 1 0 1 1591 1 0
  1 1610 2 2 1 1604 3 0 1 1587 1 0 1 1593 1 0 1 1601 1 0 1 1589 1 0 1 1602 1 0 1 1585 1 0 1 1588 1
  1 1 1578 2 0 1 1582 1 0 1 1584 1 0 1 1590 1 0 1 1592 1 0 1 1594 6 0 1 1576 1 0 1 1580 1 0 1 1583
  2 0 1 1608 1 0 1 1586 1 0 1 1581 1 0 1 1591 1 0 1 1610 2 2 1 1604 3 0 1 1587 1 0 1 1593 1 0 1
  1601 1 0 1 1589 1 0 1 1602 1 0 1 1585 1 0 1 1588 1 1 1 1578 2 0 1 1582 1 0 1 1584 1 0 1 1590 1 0
  1 1592 1 0 1 1594 581 0 2 48 46 1 0 2 48 44 1 0 2 49 44 1 0 2 50 44 1 0 2 51 44 1 0 2 52 44 1 0
  2 53 44 1 0 2 54 44 1 0 2 55 44 1 0 2 56 44 1 0 2 57 44 6 0 3 40 65 41 1 0 3 40 66 41 1 0 3 40
  67 41 1 0 3 40 68 41 1 0 3 40 69 41 1 0 3 40 70 41 1 0 3 40 71 41 1 0 3 40 72 41 1 0 3 40 73 41
  1 0 3 40 74 41 1 0 3 40 75 41 1 0 3 40 76 41 1 0 3 40 77 41 1 0 3 40 78 41 1 0 3 40 79 41 1 0 3
  40 80 41 1 0 3 40 81 41 1 0 3 40 82 41 1 0 3 40 83 41 1 0 3 40 84 41 1 0 3 40 85 41 1 0 3 40 86
  41 1 0 3 40 87 41 1 0 3 40 88 41 1 0 3 40 89 41 1 0 3 40 90 41 1 0 3 12308 83 12309 1 0 1 67 1 0
  1 82 1 0 2 67 68 1 0 2 87 90 2 25 1 65 26 0 2 72 86 1 0 2 77 86 1 0 2 83 68 1 0 2 83 83 1 0 3 80
  80 86 1 0 2 87 67 27 0 2 77 67 1 0 2 77 68 1 0 2 77 82 36 0 2 68 74 112 0 2 12411 12363 1 0 2
  12467 12467 1 0 1 12469 14 0 1 25163 1 0 1 23383 1 0 1 21452 1 0 2 12486 12441 1 0 1 20108 1 0 1
  22810 1 0 1 35299 1 0 1 22825 1 0 1 20132 1 0 1 26144 1 0 1 28961 1 0 1 26009 1 0 1 21069 1 0 1
  24460 1 0 1 20877 1 0 1 26032 1 0 1 21021 1 0 1 32066 1 0 1 29983 1 0 1 36009 1 0 1 22768 1 0 1
  21561 1 0 1 28436 1 0 1 25237 1 0 1 25429 1 0 1 19968 1 0 1 19977 1 0 1 36938 1 0 1 24038 1 0 1
  20013 1 0 1 21491 1 0 1 25351 1 0 1 36208 1 0 1 25171 1 0 1 31105 1 0 1 31354 1 0 1 21512 1 0 1
  28288 1 0 1 26377 1 0 1 26376 1 0 1 30003 1 0 1 21106 1 0 1 21942 1 0 1 37197 5 0 3 12308 26412
  12309 1 0 3 12308 19977 12309 1 0 3 12308 20108 12309 1 0 3 12308 23433 12309 1 0 3 12308 28857
  12309 1 0 3 12308 25171 12309 1 0 3 12308 30423 12309 1 0 3 12308 21213 12309 1 0 3 12308 25943
  12309 8 0 1 24471 1 0 1 21487 2463 9 1 48 64528 0 1 20029 1 0 1 20024 1 0 1 20033 1 0 1 131362 1
  0 1 20320 1 0 1 20398 1 0 1 20411 1 0 1 20482 1 0 1 20602 1 0 1 20633 1 0 1 20711 1 0 1 20687 1
  0 1 13470 1 0 1 132666 1 0 1 20813 1 0 1 20820 1 0 1 20836 1 0 1 20855 1 0 1 132380 1 0 1 13497
  1 0 1 20839 1 0 1 20877 1 0 1 132427 1 0 1 20887 1 0 1 20900 1 0 1 20172 1 0 1 20908 1 0 1 20917
  1 0 1 168415 1 0 1 20981 1 0 1 20995 1 0 1 13535 1 0 1 21051 1 0 1 21062 1 0 1 21106 1 0 1 21111
  1 0 1 13589 1 0 1 21191 1 0 1 21193 1 0 1 21220 1 0 1 21242 1 1 1 21253 2 0 1 21271 1 0 1 21321
  1 0 1 21329 1 0 1 21338 1 0 1 21363 1 0 1 21373 1 0 1 21375 1 0 1 21375 1 0 1 21375 1 0 1 133676
  1 0 1 28784 1 0 1 21450 1 0 1 21471 1 0 1 133987 1 0 1 21483 1 0 1 21489 1 0 1 21510 1 0 1 21662
  1 0 1 21560 1 0 1 21576 1 0 1 21608 1 0 1 21666 1 0 1 21750 1 0 1 21776 1 0 1 21843 1 0 1 21859
  1 0 1 21892 1 0 1 21892 1 0 1 21913 1 0 1 21931 1 0 1 21939 1 0 1 21954 1 0 1 22294 1 0 1 22022
  1 0 1 22295 1 0 1 22097 1 0 1 22132 1 0 1 20999 1 0 1 22766 1 0 1 22478 1 0 1 22516 1 0 1 22541
  1 0 1 22411 1 0 1 22578 1 0 1 22577 1 0 1 22700 1 0 1 136420 1 0 1 22770 1 0 1 22775 1 0 1 22790
  1 0 1 22810 1 0 1 22818 1 0 1 22882 1 0 1 136872 1 0 1 136938 1 0 1 23020 1 0 1 23067 1 0 1
  23079 1 0 1 23000 1 0 1 23142 1 0 1 14062 1 0 1 14076 1 0 1 23304 1 0 1 23358 1 0 1 23358 1 0 1
  137672 1 0 1 23491 1 0 1 23512 1 0 1 23527 1 0 1 23539 1 0 1 138008 1 0 1 23551 1 0 1 23558 1 0
  1 24403 1 0 1 23586 1 0 1 14209 1 0 1 23648 1 0 1 23662 1 0 1 23744 1 0 1 23693 1 0 1 138724 1 0
  1 23875 1 0 1 138726 1 0 1 23918 1 0 1 23915 1 0 1 23932 1 1 1 24033 2 0 1 14383 1 0 1 24061 1 0
  1 24104 1 0 1 24125 1 0 1 24169 1 0 1 14434 1 0 1 139651 1 0 1 14460 1 0 1 24240 1 0 1 24243 1 0
  1 24246 1 0 1 24266 1 0 1 172946 1 0 1 24318 1 0 1 140081 1 0 1 140081 1 0 1 33281 1 0 1 24354 1
  0 1 24354 1 0 1 14535 1 0 1 144056 1 0 1 156122 1 0 1 24418 1 0 1 24427 1 0 1 14563 1 0 1 24474
  1 0 1 24525 1 0 1 24535 1 0 1 24569 1 0 1 24705 1 0 1 14650 1 0 1 14620 1 0 1 24724 1 0 1 141012
  1 0 1 24775 1 0 1 24904 1 0 1 24908 1 0 1 24910 1 0 1 24908 1 0 1 24954 1 0 1 24974 1 0 1 25010
  1 0 1 24996 1 0 1 25007 1 0 1 25054 1 0 1 25074 1 0 1 25078 1 0 1 25104 1 0 1 25115 1 0 1 25181
  1 0 1 25265 1 0 1 25300 1 0 1 25424 1 0 1 142092 1 0 1 25405 1 0 1 25340 1 0 1 25448 1 0 1 25475
  1 0 1 25572 1 0 1 142321 1 0 1 25634 1 0 1 25541 1 0 1 25513 1 0 1 14894 1 0 1 25705 1 0 1 25726
  1 0 1 25757 1 0 1 25719 1 0 1 14956 1 0 1 25935 1 0 1 25964 1 0 1 143370 1 0 1 26083 1 0 1 26360
  1 0 1 26185 1 0 1 15129 1 0 1 26257 1 0 1 15112 1 0 1 15076 1 0 1 20882 1 0 1 20885 1 0 1 26368
  1 0 1 26268 1 0 1 32941 1 0 1 17369 1 0 1 26391 1 0 1 26395 1 0 1 26401 1 0 1 26462 1 0 1 26451
  1 0 1 144323 1 0 1 15177 1 0 1 26618 1 0 1 26501 1 0 1 26706 1 0 1 26757 1 0 1 144493 1 0 1
  26766 1 0 1 26655 1 0 1 26900 1 0 1 15261 1 0 1 26946 1 0 1 27043 1 0 1 27114 1 0 1 27304 1 0 1
  145059 1 0 1 27355 1 0 1 15384 1 0 1 27425 1 0 1 145575 1 0 1 27476 1 0 1 15438 1 0 1 27506 1 0
  1 27551 1 1 1 27578 2 0 1 146061 1 0 1 138507 1 0 1 146170 1 0 1 27726 1 0 1 146620 1 0 1 27839
  1 0 1 27853 1 0 1 27751 1 0 1 27926 1 0 1 27966 1 0 1 28023 1 0 1 27969 1 0 1 28009 1 0 1 28024
  1 0 1 28037 1 0 1 146718 1 0 1 27956 1 0 1 28207 1 0 1 28270 1 0 1 15667 1 0 1 28363 1 0 1 28359
  1 0 1 147153 1 0 1 28153 1 0 1 28526 1 0 1 147294 1 0 1 147342 1 0 1 28614 1 0 1 28729 1 0 1
  28702 1 0 1 28699 1 0 1 15766 1 0 1 28746 1 0 1 28797 1 0 1 28791 1 0 1 28845 1 0 1 132389 1 0 1
  28997 1 0 1 148067 1 0 1 29084 1 0 1 148395 1 0 1 29224 1 0 1 29237 1 0 1 29264 1 0 1 149000 1 0
  1 29312 1 0 1 29333 1 0 1 149301 1 0 1 149524 1 0 1 29562 1 0 1 29579 1 0 1 16044 1 0 1 29605 1
  0 1 16056 1 0 1 16056 1 0 1 29767 1 0 1 29788 1 0 1 29809 1 0 1 29829 1 0 1 29898 1 0 1 16155 1
  0 1 29988 1 0 1 150582 1 0 1 30014 1 0 1 150674 1 0 1 30064 1 0 1 139679 1 0 1 30224 1 0 1
  151457 1 0 1 151480 1 0 1 151620 1 0 1 16380 1 0 1 16392 1 0 1 30452 1 0 1 151795 1 0 1 151794 1
  0 1 151833 1 0 1 151859 1 1 1 30494 2 0 1 30495 1 0 1 30538 1 0 1 16441 1 0 1 30603 1 0 1 16454
  1 0 1 16534 1 0 1 152605 1 0 1 30798 1 0 1 30860 1 0 1 30924 1 0 1 16611 1 0 1 153126 1 0 1
  31062 1 0 1 153242 1 0 1 153285 1 0 1 31119 1 0 1 31211 1 0 1 16687 1 0 1 31296 1 0 1 31306 1 0
  1 31311 1 0 1 153980 1 0 1 154279 1 0 1 154279 1 0 1 31470 1 0 1 16898 1 0 1 154539 1 0 1 31686
  1 0 1 31689 1 0 1 16935 1 0 1 154752 1 0 1 31954 1 0 1 17056 1 0 1 31976 1 0 1 31971 1 0 1 32000
  1 0 1 155526 1 0 1 32099 1 0 1 17153 1 0 1 32199 1 0 1 32258 1 0 1 32325 1 0 1 17204 1 0 1
  156200 1 0 1 156231 1 0 1 17241 1 0 1 156377 1 0 1 32634 1 0 1 156478 1 0 1 32661 1 0 1 32762 1
  0 1 32773 1 0 1 156890 1 0 1 156963 1 0 1 32864 1 0 1 157096 1 0 1 32880 1 0 1 144223 1 0 1
  17365 1 0 1 32946 1 0 1 33027 1 0 1 17419 1 0 1 33086 1 0 1 23221 1 0 1 157607 1 0 1 157621 1 0
  1 144275 1 0 1 144284 1 0 1 33281 1 0 1 33284 1 0 1 36766 1 0 1 17515 1 0 1 33425 1 0 1 33419 1
  0 1 33437 1 0 1 21171 1 0 1 33457 1 0 1 33459 1 0 1 33469 1 0 1 33510 1 0 1 158524 1 0 1 33509 1
  0 1 33565 1 0 1 33635 1 0 1 33709 1 0 1 33571 1 0 1 33725 1 0 1 33767 1 0 1 33879 1 0 1 33619 1
  0 1 33738 1 0 1 33740 1 0 1 33756 1 0 1 158774 1 0 1 159083 1 0 1 158933 1 0 1 17707 1 0 1 34033
  1 0 1 34035 1 0 1 34070 1 0 1 160714 1 0 1 34148 1 0 1 159532 1 0 1 17757 1 0 1 17761 1 0 1
  159665 1 0 1 159954 1 0 1 17771 1 0 1 34384 1 0 1 34396 1 0 1 34407 1 0 1 34409 1 0 1 34473 1 0
  1 34440 1 0 1 34574 1 0 1 34530 1 0 1 34681 1 0 1 34600 1 0 1 34667 1 0 1 34694 1 0 1 17879 1 0
  1 34785 1 0 1 34817 1 0 1 17913 1 0 1 34912 1 0 1 34915 1 0 1 161383 1 0 1 35031 1 0 1 35038 1 0
  1 17973 1 0 1 35066 1 0 1 13499 1 0 1 161966 1 0 1 162150 1 0 1 18110 1 0 1 18119 1 0 1 35488 1
  0 1 35565 1 0 1 35722 1 0 1 35925 1 0 1 162984 1 0 1 36011 1 0 1 36033 1 0 1 36123 1 0 1 36215 1
  0 1 163631 1 0 1 133124 1 0 1 36299 1 0 1 36284 1 0 1 36336 1 0 1 133342 1 0 1 36564 1 0 1 36664
  1 0 1 165330 1 0 1 165357 1 0 1 37012 1 0 1 37105 1 0 1 37137 1 0 1 165678 1 0 1 37147 1 0 1
  37432 1 1 1 37591 2 0 1 37500 1 0 1 37881 1 0 1 37909 1 0 1 166906 1 0 1 38283 1 0 1 18837 1 0 1
  38327 1 0 1 167287 1 0 1 18918 1 0 1 38595 1 0 1 23986 1 0 1 38691 1 0 1 168261 1 0 1 168474 1 0
  1 19054 1 0 1 19062 1 0 1 38880 1 0 1 168970 1 0 1 19122 1 0 1 169110 1 0 1 38923 1 0 1 38923 1
  0 1 38953 1 0 1 169398 1 0 1 39138 1 0 1 19251 1 0 1 39209 1 0 1 39335 1 0 1 39362 1 0 1 39422 1
  0 1 19406 1 0 1 170800 1 0 1 39698 1 0 1 40000 1 0 1 40189 1 0 1 19662 1 0 1 19693 1 0 1 40295 1
  0 1 172238 1 0 1 19704 1 0 1 172293 1 0 1 172558 1 0 1 172689 1 0 1 40635 1 0 1 19798 1 0 1
  40697 1 0 1 40702 1 0 1 40709 1 0 1 40719 1 0 1 40726 1 0 1 40763 1 0 1 173568"

def combiningRuns : Array (Nat × Nat × Nat) := (unpack 0 (decimals
  "768 20 230 1 0 232 1 3 220 1 0 232 1 0 216 1 4 220 1 1 202 1 3 220 1 1 202 1 10 220 1 4 1 1 3
  220 1 7 230 1 0 240 1 0 230 1 2 220 1 2 230 1 1 220 2 2 230 1 3 220 1 0 230 1 0 232 1 1 220 1 0
  230 1 0 233 1 1 234 1 0 233 1 1 234 1 0 233 1 12 230 276 4 230 266 0 220 1 3 230 1 0 220 1 2 230
  1 0 222 1 0 220 1 5 230 1 5 220 1 1 230 1 0 220 1 1 230 1 0 222 1 0 228 1 0 230 1 0 10 1 0 11 1
  0 12 1 0 13 1 0 14 1 0 15 1 0 16 1 0 17 1 0 18 1 1 19 1 0 20 1 0 21 1 0 22 2 0 23 2 0 24 1 0 25
  2 0 230 1 0 220 2 0 18 73 7 230 1 0 30 1 0 31 1 0 32 49 0 27 1 0 28 1 0 29 1 0 30 1 0 31 1 0 32
  1 0 33 1 0 34 1 1 230 1 1 220 1 4 230 1 0 220 1 1 230 1 0 220 17 0 35 102 6 230 3 3 230 1 0 220
  1 0 230 3 1 230 2 0 220 1 1 230 1 0 220 36 0 36 31 0 230 1 0 220 1 1 230 1 0 220 1 1 230 1 2 220
  1 0 230 1 1 220 1 0 230 1 0 220 1 2 230 1 0 220 1 0 230 1 0 220 1 0 230 1 0 220 1 0 230 1 0 220
  1 1 230 161 6 230 1 0 220 1 0 230 10 0 220 25 3 230 2 8 230 2 2 230 2 4 230 44 2 220 61 0 230 1
  2 220 1 3 230 43 4 230 1 4 220 1 13 230 2 0 220 1 1 230 1 0 220 1 1 230 1 0 220 1 2 230 1 2 220
  1 0 27 1 0 28 1 0 29 1 2 230 1 0 220 1 1 230 1 1 220 1 4 230 61 0 7 17 0 9 4 0 230 1 0 220 1 1
  230 104 0 7 17 0 9 49 0 230 62 0 7 17 0 9 111 0 7 17 0 9 111 0 7 17 0 9 128 0 9 111 0 7 17 0 9 8
  0 84 1 0 91 102 0 7 17 0 9 110 1 9 17 0 9 125 0 9 110 1 103 1 0 9 14 3 107 109 1 118 1 0 9 14 3
  122 77 1 220 28 0 220 2 0 220 2 0 216 56 0 129 1 0 130 2 0 132 6 3 130 3 0 130 2 1 230 1 0 9 2 1
  230 63 0 220 113 0 7 2 1 9 83 0 220 720 2 230 949 1 9 31 0 9 158 0 9 11 0 230 204 0 228 144 0
  222 1 0 230 1 0 220 220 0 230 1 0 220 72 0 9 21 7 230 3 0 220 49 4 230 1 5 220 1 1 230 1 0 220 2
  1 220 1 1 230 1 1 220 1 4 230 1 0 220 1 3 230 102 0 7 16 0 9 39 0 230 1 0 220 1 6 230 55 1 9 59
  0 7 12 1 9 68 0 7 153 2 230 2 0 1 1 4 220 1 1 230 1 3 220 1 0 230 2 6 1 5 0 220 7 0 230 4 1 230
  199 1 230 1 0 220 1 6 230 1 0 220 1 1 230 1 0 234 1 0 214 1 0 220 1 0 202 1 36 230 1 0 232 1 1
  228 1 0 220 1 0 218 1 0 230 1 0 233 1 0 220 1 0 230 1 0 220 721 1 230 1 1 1 1 3 230 1 2 1 1 1
  230 5 0 230 4 1 1 1 0 230 1 0 220 1 0 230 1 1 1 1 3 220 1 0 230 3071 2 230 142 0 9 97 31 230 555
  0 218 1 0 228 1 0 232 1 0 222 1 1 224 106 1 8 30165 0 230 5 9 230 33 1 230 81 1 230 277 0 9 38 0
  9 152 0 9 28 17 230 58 2 220 38 0 9 96 0 7 13 0 9 240 0 230 2 1 230 1 0 220 3 1 230 6 1 230 2 0
  230 53 0 9 247 0 9 20273 0 26 770 6 230 1 6 220 1 1 230 974 0 220 227 0 220 150 4 230 1683 0 220
  2 0 230 41 0 230 1 0 1 1 0 220 5 0 9 166 0 230 1 0 220 574 3 230 388 1 230 154 1 220 1 2 230 1 0
  220 1 0 230 1 3 220 50 0 230 1 0 220 1 0 230 1 0 220 193 0 9 42 0 9 15 0 9 58 0 9 1 0 7 70 2 230
  49 1 9 63 0 7 77 0 9 10 0 7 107 0 9 1 0 7 179 0 7 1 0 9 81 1 7 17 0 9 25 6 230 4 4 230 206 0 9 4
  0 7 24 0 230 100 0 9 1 0 7 252 0 9 1 0 7 127 0 9 119 0 9 1 0 7 116 0 9 270 0 9 1 0 7 259 1 9 5 0
  7 157 0 9 84 0 9 19 0 9 82 0 9 422 0 9 259 0 7 2 1 9 82 0 9 19801 4 1 60 6 230 1210 1 6 19629 0
  1 5319 1 216 1 2 1 4 0 226 1 4 216 9 7 220 3 4 230 1 1 220 31 3 230 149 2 230 3516 6 230 2 16
  230 3 6 230 2 1 230 2 4 230 262 6 230 376 0 230 62 3 230 1505 6 220 110 5 230 1 0 7")).toArray
where
  unpack (last : Nat) : List Nat → List (Nat × Nat × Nat)
    | gap :: width :: kind :: rest =>
        (last + gap, last + gap + width, kind) :: unpack (last + gap + width) rest
    | _ => []

def compositionPairs : Array (Nat × Nat × Nat) := (unpack (decimals
  "65 768 192 65 769 193 65 770 194 65 771 195 65 776 196 65 778 197 67 807 199 69 768 200 69 769
  201 69 770 202 69 776 203 73 768 204 73 769 205 73 770 206 73 776 207 78 771 209 79 768 210 79
  769 211 79 770 212 79 771 213 79 776 214 85 768 217 85 769 218 85 770 219 85 776 220 89 769 221
  97 768 224 97 769 225 97 770 226 97 771 227 97 776 228 97 778 229 99 807 231 101 768 232 101 769
  233 101 770 234 101 776 235 105 768 236 105 769 237 105 770 238 105 776 239 110 771 241 111 768
  242 111 769 243 111 770 244 111 771 245 111 776 246 117 768 249 117 769 250 117 770 251 117 776
  252 121 769 253 121 776 255 65 772 256 97 772 257 65 774 258 97 774 259 65 808 260 97 808 261 67
  769 262 99 769 263 67 770 264 99 770 265 67 775 266 99 775 267 67 780 268 99 780 269 68 780 270
  100 780 271 69 772 274 101 772 275 69 774 276 101 774 277 69 775 278 101 775 279 69 808 280 101
  808 281 69 780 282 101 780 283 71 770 284 103 770 285 71 774 286 103 774 287 71 775 288 103 775
  289 71 807 290 103 807 291 72 770 292 104 770 293 73 771 296 105 771 297 73 772 298 105 772 299
  73 774 300 105 774 301 73 808 302 105 808 303 73 775 304 74 770 308 106 770 309 75 807 310 107
  807 311 76 769 313 108 769 314 76 807 315 108 807 316 76 780 317 108 780 318 78 769 323 110 769
  324 78 807 325 110 807 326 78 780 327 110 780 328 79 772 332 111 772 333 79 774 334 111 774 335
  79 779 336 111 779 337 82 769 340 114 769 341 82 807 342 114 807 343 82 780 344 114 780 345 83
  769 346 115 769 347 83 770 348 115 770 349 83 807 350 115 807 351 83 780 352 115 780 353 84 807
  354 116 807 355 84 780 356 116 780 357 85 771 360 117 771 361 85 772 362 117 772 363 85 774 364
  117 774 365 85 778 366 117 778 367 85 779 368 117 779 369 85 808 370 117 808 371 87 770 372 119
  770 373 89 770 374 121 770 375 89 776 376 90 769 377 122 769 378 90 775 379 122 775 380 90 780
  381 122 780 382 79 795 416 111 795 417 85 795 431 117 795 432 65 780 461 97 780 462 73 780 463
  105 780 464 79 780 465 111 780 466 85 780 467 117 780 468 220 772 469 252 772 470 220 769 471
  252 769 472 220 780 473 252 780 474 220 768 475 252 768 476 196 772 478 228 772 479 550 772 480
  551 772 481 198 772 482 230 772 483 71 780 486 103 780 487 75 780 488 107 780 489 79 808 490 111
  808 491 490 772 492 491 772 493 439 780 494 658 780 495 106 780 496 71 769 500 103 769 501 78
  768 504 110 768 505 197 769 506 229 769 507 198 769 508 230 769 509 216 769 510 248 769 511 65
  783 512 97 783 513 65 785 514 97 785 515 69 783 516 101 783 517 69 785 518 101 785 519 73 783
  520 105 783 521 73 785 522 105 785 523 79 783 524 111 783 525 79 785 526 111 785 527 82 783 528
  114 783 529 82 785 530 114 785 531 85 783 532 117 783 533 85 785 534 117 785 535 83 806 536 115
  806 537 84 806 538 116 806 539 72 780 542 104 780 543 65 775 550 97 775 551 69 807 552 101 807
  553 214 772 554 246 772 555 213 772 556 245 772 557 79 775 558 111 775 559 558 772 560 559 772
  561 89 772 562 121 772 563 168 769 901 913 769 902 917 769 904 919 769 905 921 769 906 927 769
  908 933 769 910 937 769 911 970 769 912 921 776 938 933 776 939 945 769 940 949 769 941 951 769
  942 953 769 943 971 769 944 953 776 970 965 776 971 959 769 972 965 769 973 969 769 974 978 769
  979 978 776 980 1045 768 1024 1045 776 1025 1043 769 1027 1030 776 1031 1050 769 1036 1048 768
  1037 1059 774 1038 1048 774 1049 1080 774 1081 1077 768 1104 1077 776 1105 1075 769 1107 1110
  776 1111 1082 769 1116 1080 768 1117 1091 774 1118 1140 783 1142 1141 783 1143 1046 774 1217
  1078 774 1218 1040 774 1232 1072 774 1233 1040 776 1234 1072 776 1235 1045 774 1238 1077 774
  1239 1240 776 1242 1241 776 1243 1046 776 1244 1078 776 1245 1047 776 1246 1079 776 1247 1048
  772 1250 1080 772 1251 1048 776 1252 1080 776 1253 1054 776 1254 1086 776 1255 1256 776 1258
  1257 776 1259 1069 776 1260 1101 776 1261 1059 772 1262 1091 772 1263 1059 776 1264 1091 776
  1265 1059 779 1266 1091 779 1267 1063 776 1268 1095 776 1269 1067 776 1272 1099 776 1273 1575
  1619 1570 1575 1620 1571 1608 1620 1572 1575 1621 1573 1610 1620 1574 1749 1620 1728 1729 1620
  1730 1746 1620 1747 2344 2364 2345 2352 2364 2353 2355 2364 2356 2503 2494 2507 2503 2519 2508
  2887 2902 2888 2887 2878 2891 2887 2903 2892 2962 3031 2964 3014 3006 3018 3015 3006 3019 3014
  3031 3020 3142 3158 3144 3263 3285 3264 3270 3285 3271 3270 3286 3272 3270 3266 3274 3274 3285
  3275 3398 3390 3402 3399 3390 3403 3398 3415 3404 3545 3530 3546 3545 3535 3548 3548 3530 3549
  3545 3551 3550 4133 4142 4134 6917 6965 6918 6919 6965 6920 6921 6965 6922 6923 6965 6924 6925
  6965 6926 6929 6965 6930 6970 6965 6971 6972 6965 6973 6974 6965 6976 6975 6965 6977 6978 6965
  6979 65 805 7680 97 805 7681 66 775 7682 98 775 7683 66 803 7684 98 803 7685 66 817 7686 98 817
  7687 199 769 7688 231 769 7689 68 775 7690 100 775 7691 68 803 7692 100 803 7693 68 817 7694 100
  817 7695 68 807 7696 100 807 7697 68 813 7698 100 813 7699 274 768 7700 275 768 7701 274 769
  7702 275 769 7703 69 813 7704 101 813 7705 69 816 7706 101 816 7707 552 774 7708 553 774 7709 70
  775 7710 102 775 7711 71 772 7712 103 772 7713 72 775 7714 104 775 7715 72 803 7716 104 803 7717
  72 776 7718 104 776 7719 72 807 7720 104 807 7721 72 814 7722 104 814 7723 73 816 7724 105 816
  7725 207 769 7726 239 769 7727 75 769 7728 107 769 7729 75 803 7730 107 803 7731 75 817 7732 107
  817 7733 76 803 7734 108 803 7735 7734 772 7736 7735 772 7737 76 817 7738 108 817 7739 76 813
  7740 108 813 7741 77 769 7742 109 769 7743 77 775 7744 109 775 7745 77 803 7746 109 803 7747 78
  775 7748 110 775 7749 78 803 7750 110 803 7751 78 817 7752 110 817 7753 78 813 7754 110 813 7755
  213 769 7756 245 769 7757 213 776 7758 245 776 7759 332 768 7760 333 768 7761 332 769 7762 333
  769 7763 80 769 7764 112 769 7765 80 775 7766 112 775 7767 82 775 7768 114 775 7769 82 803 7770
  114 803 7771 7770 772 7772 7771 772 7773 82 817 7774 114 817 7775 83 775 7776 115 775 7777 83
  803 7778 115 803 7779 346 775 7780 347 775 7781 352 775 7782 353 775 7783 7778 775 7784 7779 775
  7785 84 775 7786 116 775 7787 84 803 7788 116 803 7789 84 817 7790 116 817 7791 84 813 7792 116
  813 7793 85 804 7794 117 804 7795 85 816 7796 117 816 7797 85 813 7798 117 813 7799 360 769 7800
  361 769 7801 362 776 7802 363 776 7803 86 771 7804 118 771 7805 86 803 7806 118 803 7807 87 768
  7808 119 768 7809 87 769 7810 119 769 7811 87 776 7812 119 776 7813 87 775 7814 119 775 7815 87
  803 7816 119 803 7817 88 775 7818 120 775 7819 88 776 7820 120 776 7821 89 775 7822 121 775 7823
  90 770 7824 122 770 7825 90 803 7826 122 803 7827 90 817 7828 122 817 7829 104 817 7830 116 776
  7831 119 778 7832 121 778 7833 383 775 7835 65 803 7840 97 803 7841 65 777 7842 97 777 7843 194
  769 7844 226 769 7845 194 768 7846 226 768 7847 194 777 7848 226 777 7849 194 771 7850 226 771
  7851 7840 770 7852 7841 770 7853 258 769 7854 259 769 7855 258 768 7856 259 768 7857 258 777
  7858 259 777 7859 258 771 7860 259 771 7861 7840 774 7862 7841 774 7863 69 803 7864 101 803 7865
  69 777 7866 101 777 7867 69 771 7868 101 771 7869 202 769 7870 234 769 7871 202 768 7872 234 768
  7873 202 777 7874 234 777 7875 202 771 7876 234 771 7877 7864 770 7878 7865 770 7879 73 777 7880
  105 777 7881 73 803 7882 105 803 7883 79 803 7884 111 803 7885 79 777 7886 111 777 7887 212 769
  7888 244 769 7889 212 768 7890 244 768 7891 212 777 7892 244 777 7893 212 771 7894 244 771 7895
  7884 770 7896 7885 770 7897 416 769 7898 417 769 7899 416 768 7900 417 768 7901 416 777 7902 417
  777 7903 416 771 7904 417 771 7905 416 803 7906 417 803 7907 85 803 7908 117 803 7909 85 777
  7910 117 777 7911 431 769 7912 432 769 7913 431 768 7914 432 768 7915 431 777 7916 432 777 7917
  431 771 7918 432 771 7919 431 803 7920 432 803 7921 89 768 7922 121 768 7923 89 803 7924 121 803
  7925 89 777 7926 121 777 7927 89 771 7928 121 771 7929 945 787 7936 945 788 7937 7936 768 7938
  7937 768 7939 7936 769 7940 7937 769 7941 7936 834 7942 7937 834 7943 913 787 7944 913 788 7945
  7944 768 7946 7945 768 7947 7944 769 7948 7945 769 7949 7944 834 7950 7945 834 7951 949 787 7952
  949 788 7953 7952 768 7954 7953 768 7955 7952 769 7956 7953 769 7957 917 787 7960 917 788 7961
  7960 768 7962 7961 768 7963 7960 769 7964 7961 769 7965 951 787 7968 951 788 7969 7968 768 7970
  7969 768 7971 7968 769 7972 7969 769 7973 7968 834 7974 7969 834 7975 919 787 7976 919 788 7977
  7976 768 7978 7977 768 7979 7976 769 7980 7977 769 7981 7976 834 7982 7977 834 7983 953 787 7984
  953 788 7985 7984 768 7986 7985 768 7987 7984 769 7988 7985 769 7989 7984 834 7990 7985 834 7991
  921 787 7992 921 788 7993 7992 768 7994 7993 768 7995 7992 769 7996 7993 769 7997 7992 834 7998
  7993 834 7999 959 787 8000 959 788 8001 8000 768 8002 8001 768 8003 8000 769 8004 8001 769 8005
  927 787 8008 927 788 8009 8008 768 8010 8009 768 8011 8008 769 8012 8009 769 8013 965 787 8016
  965 788 8017 8016 768 8018 8017 768 8019 8016 769 8020 8017 769 8021 8016 834 8022 8017 834 8023
  933 788 8025 8025 768 8027 8025 769 8029 8025 834 8031 969 787 8032 969 788 8033 8032 768 8034
  8033 768 8035 8032 769 8036 8033 769 8037 8032 834 8038 8033 834 8039 937 787 8040 937 788 8041
  8040 768 8042 8041 768 8043 8040 769 8044 8041 769 8045 8040 834 8046 8041 834 8047 945 768 8048
  949 768 8050 951 768 8052 953 768 8054 959 768 8056 965 768 8058 969 768 8060 7936 837 8064 7937
  837 8065 7938 837 8066 7939 837 8067 7940 837 8068 7941 837 8069 7942 837 8070 7943 837 8071
  7944 837 8072 7945 837 8073 7946 837 8074 7947 837 8075 7948 837 8076 7949 837 8077 7950 837
  8078 7951 837 8079 7968 837 8080 7969 837 8081 7970 837 8082 7971 837 8083 7972 837 8084 7973
  837 8085 7974 837 8086 7975 837 8087 7976 837 8088 7977 837 8089 7978 837 8090 7979 837 8091
  7980 837 8092 7981 837 8093 7982 837 8094 7983 837 8095 8032 837 8096 8033 837 8097 8034 837
  8098 8035 837 8099 8036 837 8100 8037 837 8101 8038 837 8102 8039 837 8103 8040 837 8104 8041
  837 8105 8042 837 8106 8043 837 8107 8044 837 8108 8045 837 8109 8046 837 8110 8047 837 8111 945
  774 8112 945 772 8113 8048 837 8114 945 837 8115 940 837 8116 945 834 8118 8118 837 8119 913 774
  8120 913 772 8121 913 768 8122 913 837 8124 168 834 8129 8052 837 8130 951 837 8131 942 837 8132
  951 834 8134 8134 837 8135 917 768 8136 919 768 8138 919 837 8140 8127 768 8141 8127 769 8142
  8127 834 8143 953 774 8144 953 772 8145 970 768 8146 953 834 8150 970 834 8151 921 774 8152 921
  772 8153 921 768 8154 8190 768 8157 8190 769 8158 8190 834 8159 965 774 8160 965 772 8161 971
  768 8162 961 787 8164 961 788 8165 965 834 8166 971 834 8167 933 774 8168 933 772 8169 933 768
  8170 929 788 8172 168 768 8173 8060 837 8178 969 837 8179 974 837 8180 969 834 8182 8182 837
  8183 927 768 8184 937 768 8186 937 837 8188 8592 824 8602 8594 824 8603 8596 824 8622 8656 824
  8653 8660 824 8654 8658 824 8655 8707 824 8708 8712 824 8713 8715 824 8716 8739 824 8740 8741
  824 8742 8764 824 8769 8771 824 8772 8773 824 8775 8776 824 8777 61 824 8800 8801 824 8802 8781
  824 8813 60 824 8814 62 824 8815 8804 824 8816 8805 824 8817 8818 824 8820 8819 824 8821 8822
  824 8824 8823 824 8825 8826 824 8832 8827 824 8833 8834 824 8836 8835 824 8837 8838 824 8840
  8839 824 8841 8866 824 8876 8872 824 8877 8873 824 8878 8875 824 8879 8828 824 8928 8829 824
  8929 8849 824 8930 8850 824 8931 8882 824 8938 8883 824 8939 8884 824 8940 8885 824 8941 12363
  12441 12364 12365 12441 12366 12367 12441 12368 12369 12441 12370 12371 12441 12372 12373 12441
  12374 12375 12441 12376 12377 12441 12378 12379 12441 12380 12381 12441 12382 12383 12441 12384
  12385 12441 12386 12388 12441 12389 12390 12441 12391 12392 12441 12393 12399 12441 12400 12399
  12442 12401 12402 12441 12403 12402 12442 12404 12405 12441 12406 12405 12442 12407 12408 12441
  12409 12408 12442 12410 12411 12441 12412 12411 12442 12413 12358 12441 12436 12445 12441 12446
  12459 12441 12460 12461 12441 12462 12463 12441 12464 12465 12441 12466 12467 12441 12468 12469
  12441 12470 12471 12441 12472 12473 12441 12474 12475 12441 12476 12477 12441 12478 12479 12441
  12480 12481 12441 12482 12484 12441 12485 12486 12441 12487 12488 12441 12489 12495 12441 12496
  12495 12442 12497 12498 12441 12499 12498 12442 12500 12501 12441 12502 12501 12442 12503 12504
  12441 12505 12504 12442 12506 12507 12441 12508 12507 12442 12509 12454 12441 12532 12527 12441
  12535 12528 12441 12536 12529 12441 12537 12530 12441 12538 12541 12441 12542 69785 69818 69786
  69787 69818 69788 69797 69818 69803 69937 69927 69934 69938 69927 69935 70471 70462 70475 70471
  70487 70476 70841 70842 70843 70841 70832 70844 70841 70845 70846 71096 71087 71098 71097 71087
  71099 71989 71984 71992")).toArray
where
  unpack : List Nat → List (Nat × Nat × Nat)
    | first :: second :: composed :: rest => (first, second, composed) :: unpack rest
    | _ => []

end SourceAtlas.Text

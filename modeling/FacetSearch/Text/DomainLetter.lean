import FacetSearch.Text.Class

/-!
# `FacetSearch.Text.DomainLetter`: the characters of domain names

A label of a domain name is made of letters, digits and marks that keep their form under
normalisation and folding of case, as derived for Unicode 17. Some signs stand only beside letters
of one script.
-/

set_option autoImplicit false

namespace FacetSearch

/-- The boundaries of the runs of label characters. -/
def labelBoundaries : List Nat := [
  45, 46, 48, 58, 97, 123, 223, 247, 248, 256, 309, 310, 311, 313, 392, 393, 396, 398, 402, 403,
  405, 406, 409, 412, 414, 415, 424, 425, 426, 428, 429, 430, 432, 433, 441, 444, 445, 452, 476,
  478, 495, 497, 501, 502, 563, 570, 572, 573, 575, 577, 578, 579, 591, 688, 697, 706, 710, 722,
  768, 832, 834, 835, 838, 847, 848, 880, 887, 888, 891, 894, 912, 913, 940, 975, 1011, 1012, 1016,
  1017, 1019, 1021, 1072, 1120, 1155, 1160, 1230, 1232, 1369, 1370, 1376, 1415, 1416, 1417, 1425,
  1470, 1471, 1472, 1473, 1475, 1476, 1478, 1479, 1480, 1488, 1515, 1519, 1523, 1552, 1563, 1568,
  1600, 1601, 1632, 1646, 1653, 1657, 1748, 1749, 1757, 1759, 1769, 1770, 1776, 1786, 1792, 1808,
  1867, 1869, 1970, 1984, 2038, 2045, 2046, 2048, 2094, 2112, 2140, 2144, 2155, 2160, 2184, 2185,
  2192, 2199, 2274, 2275, 2392, 2400, 2404, 2406, 2416, 2417, 2436, 2437, 2445, 2447, 2449, 2451,
  2473, 2474, 2481, 2482, 2483, 2486, 2490, 2492, 2501, 2503, 2505, 2507, 2511, 2519, 2520, 2528,
  2532, 2534, 2546, 2561, 2564, 2565, 2571, 2575, 2577, 2579, 2601, 2602, 2609, 2610, 2611, 2613,
  2614, 2616, 2618, 2620, 2621, 2622, 2627, 2631, 2633, 2635, 2638, 2641, 2642, 2652, 2653, 2662,
  2678, 2689, 2692, 2693, 2702, 2703, 2706, 2707, 2729, 2730, 2737, 2738, 2740, 2741, 2746, 2748,
  2758, 2759, 2762, 2763, 2766, 2768, 2769, 2784, 2788, 2790, 2800, 2809, 2816, 2817, 2820, 2821,
  2829, 2831, 2833, 2835, 2857, 2858, 2865, 2866, 2868, 2869, 2874, 2876, 2885, 2887, 2889, 2891,
  2894, 2901, 2904, 2911, 2916, 2918, 2928, 2929, 2930, 2946, 2948, 2949, 2955, 2958, 2961, 2962,
  2966, 2969, 2971, 2972, 2973, 2974, 2976, 2979, 2981, 2984, 2987, 2990, 3002, 3006, 3011, 3014,
  3017, 3018, 3022, 3024, 3025, 3031, 3032, 3046, 3056, 3072, 3085, 3086, 3089, 3090, 3113, 3114,
  3130, 3132, 3141, 3142, 3145, 3146, 3150, 3157, 3159, 3160, 3163, 3164, 3166, 3168, 3172, 3174,
  3184, 3200, 3204, 3205, 3213, 3214, 3217, 3218, 3241, 3242, 3252, 3253, 3258, 3260, 3269, 3270,
  3273, 3274, 3278, 3285, 3287, 3292, 3295, 3296, 3300, 3302, 3312, 3313, 3316, 3328, 3341, 3342,
  3345, 3346, 3397, 3398, 3401, 3402, 3407, 3412, 3416, 3423, 3428, 3430, 3440, 3450, 3456, 3457,
  3460, 3461, 3479, 3482, 3506, 3507, 3516, 3517, 3518, 3520, 3527, 3530, 3531, 3535, 3541, 3542,
  3543, 3544, 3552, 3558, 3568, 3570, 3572, 3585, 3635, 3636, 3643, 3648, 3663, 3664, 3674, 3713,
  3715, 3716, 3717, 3718, 3723, 3724, 3748, 3749, 3750, 3751, 3763, 3764, 3774, 3776, 3781, 3782,
  3783, 3784, 3791, 3792, 3802, 3806, 3808, 3840, 3841, 3851, 3852, 3864, 3866, 3872, 3882, 3902,
  3907, 3908, 3912, 3913, 3917, 3918, 3922, 3923, 3927, 3928, 3932, 3933, 3945, 3946, 3949, 3953,
  3955, 3956, 3957, 3962, 3969, 3970, 3973, 3974, 3987, 3988, 3992, 3993, 3997, 3998, 4002, 4003,
  4007, 4008, 4012, 4013, 4025, 4026, 4029, 4038, 4039, 4096, 4170, 4176, 4254, 4304, 4347, 4349,
  4352, 4608, 4681, 4682, 4686, 4688, 4695, 4696, 4697, 4698, 4702, 4704, 4745, 4746, 4750, 4752,
  4785, 4786, 4790, 4792, 4799, 4800, 4801, 4802, 4806, 4808, 4823, 4824, 4881, 4882, 4886, 4888,
  4955, 4957, 4960, 4992, 5008, 5024, 5110, 5121, 5741, 5743, 5760, 5761, 5787, 5792, 5867, 5873,
  5881, 5888, 5910, 5919, 5941, 5952, 5972, 5984, 5997, 5998, 6001, 6002, 6004, 6016, 6068, 6070,
  6100, 6103, 6104, 6108, 6110, 6112, 6122, 6160, 6170, 6176, 6265, 6272, 6315, 6320, 6390, 6400,
  6431, 6432, 6444, 6448, 6460, 6470, 6510, 6512, 6517, 6528, 6572, 6576, 6602, 6608, 6618, 6656,
  6684, 6688, 6751, 6752, 6781, 6783, 6794, 6800, 6810, 6823, 6824, 6832, 6846, 6847, 6878, 6880,
  6892, 6912, 6989, 6992, 7002, 7019, 7028, 7040, 7156, 7168, 7224, 7232, 7242, 7245, 7294, 7306,
  7307, 7376, 7379, 7380, 7419, 7424, 7468, 7471, 7472, 7483, 7484, 7502, 7503, 7531, 7544, 7545,
  7579, 7616, 7680, 7829, 7834, 7836, 7838, 7935, 7944, 7952, 7958, 7968, 7976, 7984, 7992, 8000,
  8006, 8016, 8024, 8032, 8040, 8112, 8114, 8118, 8119, 8134, 8135, 8144, 8147, 8150, 8152, 8160,
  8163, 8164, 8168, 8182, 8183, 8526, 8527, 8580, 8581, 11312, 11360, 11361, 11362, 11365, 11367,
  11377, 11378, 11379, 11381, 11382, 11388, 11491, 11493, 11500, 11501, 11502, 11506, 11507, 11508,
  11520, 11558, 11559, 11560, 11565, 11566, 11568, 11624, 11647, 11671, 11680, 11687, 11688, 11695,
  11696, 11703, 11704, 11711, 11712, 11719, 11720, 11727, 11728, 11735, 11736, 11743, 11744, 11776,
  11823, 11824, 12293, 12296, 12330, 12334, 12348, 12349, 12353, 12439, 12441, 12443, 12445, 12447,
  12449, 12539, 12540, 12543, 12549, 12592, 12704, 12736, 12784, 12800, 13312, 19904, 19968, 42125,
  42192, 42238, 42240, 42509, 42512, 42540, 42605, 42608, 42612, 42622, 42654, 42726, 42736, 42738,
  42775, 42784, 42799, 42802, 42865, 42873, 42887, 42889, 42892, 42893, 42894, 42896, 42897, 42898,
  42899, 42902, 42927, 42928, 42998, 43000, 43002, 43048, 43052, 43053, 43072, 43124, 43136, 43206,
  43216, 43226, 43232, 43256, 43259, 43260, 43261, 43310, 43312, 43348, 43392, 43457, 43471, 43482,
  43488, 43519, 43520, 43575, 43584, 43598, 43600, 43610, 43616, 43639, 43642, 43715, 43739, 43742,
  43744, 43760, 43762, 43767, 43777, 43783, 43785, 43791, 43793, 43799, 43808, 43815, 43816, 43823,
  43824, 43867, 43872, 43881, 43968, 44011, 44012, 44014, 44016, 44026, 44032, 55204, 64014, 64016,
  64017, 64018, 64019, 64021, 64035, 64037, 64039, 64042, 64286, 64287, 65056, 65072, 65139, 65140,
  65536, 65548, 65549, 65575, 65576, 65595, 65596, 65598, 65599, 65614, 65616, 65630, 65664, 65787,
  66045, 66046, 66176, 66205, 66208, 66257, 66272, 66273, 66304, 66336, 66349, 66369, 66370, 66378,
  66384, 66427, 66432, 66462, 66464, 66500, 66504, 66512, 66600, 66718, 66720, 66730, 66776, 66812,
  66816, 66856, 66864, 66916, 66967, 66978, 66979, 66994, 66995, 67002, 67003, 67005, 67008, 67060,
  67072, 67383, 67392, 67414, 67424, 67432, 67456, 67457, 67584, 67590, 67592, 67593, 67594, 67638,
  67639, 67641, 67644, 67645, 67647, 67670, 67680, 67703, 67712, 67743, 67808, 67827, 67828, 67830,
  67840, 67862, 67872, 67898, 67904, 67930, 67968, 68024, 68030, 68032, 68096, 68100, 68101, 68103,
  68108, 68116, 68117, 68120, 68121, 68150, 68152, 68155, 68159, 68160, 68192, 68221, 68224, 68253,
  68288, 68296, 68297, 68327, 68352, 68406, 68416, 68438, 68448, 68467, 68480, 68498, 68608, 68681,
  68800, 68851, 68864, 68904, 68912, 68922, 68928, 68944, 68969, 68974, 68975, 68998, 69248, 69290,
  69291, 69293, 69296, 69298, 69314, 69320, 69370, 69405, 69415, 69416, 69424, 69457, 69488, 69510,
  69552, 69573, 69600, 69623, 69632, 69703, 69734, 69750, 69759, 69819, 69826, 69827, 69840, 69865,
  69872, 69882, 69888, 69941, 69942, 69952, 69956, 69960, 69968, 70004, 70006, 70007, 70016, 70085,
  70089, 70093, 70094, 70107, 70108, 70109, 70144, 70162, 70163, 70200, 70206, 70210, 70272, 70279,
  70280, 70281, 70282, 70286, 70287, 70302, 70303, 70313, 70320, 70379, 70384, 70394, 70400, 70404,
  70405, 70413, 70415, 70417, 70419, 70441, 70442, 70449, 70450, 70452, 70453, 70458, 70459, 70469,
  70471, 70473, 70475, 70478, 70480, 70481, 70487, 70488, 70493, 70500, 70502, 70509, 70512, 70517,
  70528, 70538, 70539, 70540, 70542, 70543, 70544, 70582, 70583, 70593, 70594, 70595, 70597, 70598,
  70599, 70603, 70604, 70612, 70625, 70627, 70656, 70731, 70736, 70746, 70750, 70754, 70784, 70854,
  70855, 70856, 70864, 70874, 71040, 71094, 71096, 71105, 71128, 71134, 71168, 71233, 71236, 71237,
  71248, 71258, 71296, 71353, 71360, 71370, 71376, 71396, 71424, 71451, 71453, 71468, 71472, 71482,
  71488, 71495, 71680, 71739, 71872, 71914, 71935, 71943, 71945, 71946, 71948, 71956, 71957, 71959,
  71960, 71990, 71991, 71993, 71995, 72004, 72016, 72026, 72096, 72104, 72106, 72152, 72154, 72162,
  72163, 72165, 72192, 72255, 72263, 72264, 72272, 72346, 72349, 72350, 72368, 72441, 72544, 72552,
  72640, 72673, 72688, 72698, 72704, 72713, 72714, 72759, 72760, 72769, 72784, 72794, 72818, 72848,
  72850, 72872, 72873, 72887, 72960, 72967, 72968, 72970, 72971, 73015, 73018, 73019, 73020, 73022,
  73023, 73032, 73040, 73050, 73056, 73062, 73063, 73065, 73066, 73103, 73104, 73106, 73107, 73113,
  73120, 73130, 73136, 73180, 73184, 73194, 73440, 73463, 73472, 73489, 73490, 73531, 73534, 73539,
  73552, 73563, 73648, 73649, 73728, 74650, 74880, 75076, 77712, 77809, 77824, 78896, 78912, 78934,
  78944, 82939, 82944, 83527, 90368, 90426, 92160, 92729, 92736, 92767, 92768, 92778, 92784, 92863,
  92864, 92874, 92880, 92910, 92912, 92917, 92928, 92983, 92992, 92996, 93008, 93018, 93027, 93048,
  93053, 93072, 93504, 93549, 93552, 93562, 93792, 93824, 93883, 93908, 93952, 94027, 94031, 94088,
  94095, 94112, 94176, 94178, 94179, 94181, 94192, 94196, 94208, 101590, 101631, 101663, 101760,
  101875, 110576, 110580, 110581, 110588, 110589, 110591, 110592, 110883, 110898, 110899, 110928,
  110931, 110933, 110934, 110948, 110952, 110960, 111356, 113664, 113771, 113776, 113789, 113792,
  113801, 113808, 113818, 113821, 113823, 118528, 118574, 118576, 118599, 121344, 121399, 121403,
  121453, 121461, 121462, 121476, 121477, 121499, 121504, 121505, 121520, 122624, 122655, 122661,
  122667, 122880, 122887, 122888, 122905, 122907, 122914, 122915, 122917, 122918, 122923, 123023,
  123024, 123136, 123181, 123184, 123198, 123200, 123210, 123214, 123215, 123536, 123567, 123584,
  123642, 124112, 124154, 124368, 124411, 124608, 124639, 124640, 124662, 124670, 124672, 124896,
  124903, 124904, 124908, 124909, 124911, 124912, 124927, 124928, 125125, 125136, 125143, 125218,
  125260, 125264, 125274, 131072, 173792, 173824, 178206, 178208, 183982, 183984, 191457, 191472,
  192094, 196608, 201547, 201552, 210042]

/-- Runs in which every second character is a label character: the first and the last. -/
def labelAlternating : List (Nat × Nat) := [
  (257, 305), (314, 318), (322, 328), (331, 375), (378, 384), (387, 389), (417, 421), (436, 438),
  (462, 474), (479, 493), (505, 561), (583, 589), (748, 750), (881, 883), (983, 1007), (1121, 1153),
  (1163, 1215), (1218, 1228), (1233, 1327), (2556, 2558), (3893, 3897), (7681, 7827), (7839, 7933),
  (8048, 8060), (11368, 11372), (11393, 11489), (42561, 42603), (42623, 42651), (42787, 42797),
  (42803, 42863), (42874, 42876), (42879, 42885), (42903, 42921), (42933, 42947), (42952, 42954),
  (42957, 42971), (64031, 64033)]

/-- A character that may stand anywhere in a label. -/
def isLabelChar (c : Char) : Bool :=
  flippedAt labelBoundaries c.toNat ||
    labelAlternating.any fun (first, last) =>
      decide (first ≤ c.toNat) && decide (c.toNat ≤ last) && (c.toNat - first) % 2 == 0

/-- The boundaries of the combining marks. -/
def markBoundaries : List Nat := [
  768, 880, 1155, 1162, 1425, 1470, 1471, 1472, 1473, 1475, 1476, 1478, 1479, 1480, 1552, 1563,
  1611, 1632, 1648, 1649, 1750, 1757, 1759, 1765, 1767, 1769, 1770, 1774, 1809, 1810, 1840, 1867,
  1958, 1969, 2027, 2036, 2045, 2046, 2070, 2074, 2075, 2084, 2085, 2088, 2089, 2094, 2137, 2140,
  2200, 2208, 2250, 2274, 2275, 2308, 2362, 2365, 2366, 2384, 2385, 2392, 2402, 2404, 2433, 2436,
  2492, 2493, 2494, 2501, 2503, 2505, 2507, 2510, 2519, 2520, 2530, 2532, 2558, 2559, 2561, 2564,
  2620, 2621, 2622, 2627, 2631, 2633, 2635, 2638, 2641, 2642, 2672, 2674, 2677, 2678, 2689, 2692,
  2748, 2749, 2750, 2758, 2759, 2762, 2763, 2766, 2786, 2788, 2810, 2816, 2817, 2820, 2876, 2877,
  2878, 2885, 2887, 2889, 2891, 2894, 2901, 2904, 2914, 2916, 2946, 2947, 3006, 3011, 3014, 3017,
  3018, 3022, 3031, 3032, 3072, 3077, 3132, 3133, 3134, 3141, 3142, 3145, 3146, 3150, 3157, 3159,
  3170, 3172, 3201, 3204, 3260, 3261, 3262, 3269, 3270, 3273, 3274, 3278, 3285, 3287, 3298, 3300,
  3328, 3332, 3387, 3389, 3390, 3397, 3398, 3401, 3402, 3406, 3415, 3416, 3426, 3428, 3457, 3460,
  3530, 3531, 3535, 3541, 3542, 3543, 3544, 3552, 3570, 3572, 3633, 3634, 3636, 3643, 3655, 3663,
  3761, 3762, 3764, 3773, 3784, 3790, 3864, 3866, 3893, 3894, 3895, 3896, 3897, 3898, 3902, 3904,
  3953, 3973, 3974, 3976, 3981, 3992, 3993, 4029, 4038, 4039, 4139, 4159, 4182, 4186, 4190, 4193,
  4194, 4197, 4199, 4206, 4209, 4213, 4226, 4238, 4239, 4240, 4250, 4254, 4957, 4960, 5906, 5910,
  5938, 5941, 5970, 5972, 6002, 6004, 6068, 6100, 6109, 6110, 6155, 6158, 6159, 6160, 6277, 6279,
  6313, 6314, 6432, 6444, 6448, 6460, 6679, 6684, 6741, 6751, 6752, 6781, 6783, 6784, 6832, 6863,
  6912, 6917, 6964, 6981, 7019, 7028, 7040, 7043, 7073, 7086, 7142, 7156, 7204, 7224, 7376, 7379,
  7380, 7401, 7405, 7406, 7412, 7413, 7415, 7418, 7616, 7680, 8400, 8433, 11503, 11506, 11647,
  11648, 11744, 11776, 12330, 12336, 12441, 12443, 42607, 42611, 42612, 42622, 42654, 42656,
  42736, 42738, 43010, 43011, 43014, 43015, 43019, 43020, 43043, 43048, 43052, 43053, 43136,
  43138, 43188, 43206, 43232, 43250, 43263, 43264, 43302, 43310, 43335, 43348, 43392, 43396,
  43443, 43457, 43493, 43494, 43561, 43575, 43587, 43588, 43596, 43598, 43643, 43646, 43696,
  43697, 43698, 43701, 43703, 43705, 43710, 43712, 43713, 43714, 43755, 43760, 43765, 43767,
  44003, 44011, 44012, 44014, 64286, 64287, 65024, 65040, 65056, 65072, 66045, 66046, 66272,
  66273, 66422, 66427, 68097, 68100, 68101, 68103, 68108, 68112, 68152, 68155, 68159, 68160,
  68325, 68327, 68900, 68904, 69291, 69293, 69446, 69457, 69506, 69510, 69632, 69635, 69688,
  69703, 69744, 69745, 69747, 69749, 69759, 69763, 69808, 69819, 69826, 69827, 69888, 69891,
  69927, 69941, 69957, 69959, 70003, 70004, 70016, 70019, 70067, 70081, 70089, 70093, 70094,
  70096, 70188, 70200, 70206, 70207, 70367, 70379, 70400, 70404, 70459, 70461, 70462, 70469,
  70471, 70473, 70475, 70478, 70487, 70488, 70498, 70500, 70502, 70509, 70512, 70517, 70709,
  70727, 70750, 70751, 70832, 70852, 71087, 71094, 71096, 71105, 71132, 71134, 71216, 71233,
  71339, 71352, 71453, 71468, 71724, 71739, 71984, 71990, 71991, 71993, 71995, 71999, 72000,
  72001, 72002, 72004, 72145, 72152, 72154, 72161, 72164, 72165, 72193, 72203, 72243, 72250,
  72251, 72255, 72263, 72264, 72273, 72284, 72330, 72346, 72751, 72759, 72760, 72768, 72850,
  72872, 72873, 72887, 73009, 73015, 73018, 73019, 73020, 73022, 73023, 73030, 73031, 73032,
  73098, 73103, 73104, 73106, 73107, 73112, 73459, 73463, 92912, 92917, 92976, 92983, 94031,
  94032, 94033, 94088, 94095, 94099, 94180, 94181, 94192, 94194, 113821, 113823, 118528, 118574,
  118576, 118599, 119141, 119146, 119149, 119155, 119163, 119171, 119173, 119180, 119210, 119214,
  119362, 119365, 121344, 121399, 121403, 121453, 121461, 121462, 121476, 121477, 121499, 121504,
  121505, 121520, 122880, 122887, 122888, 122905, 122907, 122914, 122915, 122917, 122918, 122923,
  123184, 123191, 123566, 123567, 123628, 123632, 125136, 125143, 125252, 125259, 917760, 918000]

/-- A combining mark. -/
def isMark (c : Char) : Bool := flippedAt markBoundaries c.toNat

/-- The boundaries of Greek. -/
def greekBoundaries : List Nat := [
  880, 884, 885, 888, 890, 894, 895, 896, 900, 901, 902, 903, 904, 907, 908, 909, 910, 930, 931,
  994, 1008, 1024, 7462, 7467, 7517, 7522, 7526, 7531, 7615, 7616, 7936, 7958, 7960, 7966, 7968,
  8006, 8008, 8014, 8016, 8024, 8025, 8026, 8027, 8028, 8029, 8030, 8031, 8062, 8064, 8117, 8118,
  8133, 8134, 8148, 8150, 8156, 8157, 8176, 8178, 8181, 8182, 8191, 8486, 8487, 43877, 43878,
  65856, 65935, 65952, 65953, 119296, 119366]

/-- The boundaries of Hebrew. -/
def hebrewBoundaries : List Nat := [
  1425, 1480, 1488, 1515, 1519, 1525, 64285, 64311, 64312, 64317, 64318, 64319, 64320, 64322,
  64323, 64325, 64326, 64336]

/-- The boundaries of the scripts of Japanese. -/
def japaneseBoundaries : List Nat := [
  11904, 11930, 11931, 12020, 12032, 12246, 12293, 12294, 12295, 12296, 12321, 12330, 12344,
  12348, 12353, 12439, 12445, 12448, 12449, 12539, 12541, 12544, 12784, 12800, 13008, 13055,
  13056, 13144, 13312, 19904, 19968, 40960, 63744, 64110, 64112, 64218, 65382, 65392, 65393,
  65438, 94178, 94180, 94192, 94199, 110576, 110580, 110581, 110588, 110589, 110591, 110592,
  110883, 110898, 110899, 110928, 110931, 110933, 110934, 110948, 110952, 127488, 127489, 131072,
  173792, 173824, 178206, 178208, 183982, 183984, 191457, 191472, 192094, 194560, 195102, 196608,
  201547, 201552, 210042]

end FacetSearch

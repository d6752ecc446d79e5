import Checkout.Text.CodeTable

/-!
# Characters of domain names

What becomes of each character of a domain name: it is refused, left out, replaced, or kept.
-/

namespace Checkout.Domain

open Text

/-- The code points that no domain name may contain. -/
def refused : CodeSet := CodeSet.ofRuns
  "128 32 728 2 6 4 7 1 1 1 20 1 397 1 38 2 50 2 3 1 55 8 27 4 6 17 22 1 192 1 48 2 59 2 101 14
    59 2 49 2 15 1 28 2 1 1 11 5 31 8 75 1 161 1 8 2 2 2 22 1 7 1 1 3 4 2 9 2 2 2 4 8 1 4 2 1 5
    2 25 2 3 1 6 4 2 2 22 1 7 1 2 1 2 1 2 2 1 1 5 4 2 2 3 3 1 7 4 1 1 7 17 10 3 1 9 1 3 1 22 1 7
    1 2 1 5 2 10 1 3 1 3 2 1 15 4 2 12 7 7 1 3 1 8 2 2 2 22 1 7 1 2 1 5 2 9 2 2 2 3 7 3 4 2 1 5
    2 18 10 2 1 6 3 3 1 4 3 2 1 1 1 2 3 2 3 3 3 12 4 5 3 3 1 4 2 1 6 1 14 21 5 13 1 3 1 23 1 16
    2 9 1 3 1 4 7 2 1 3 2 1 2 4 2 10 7 22 1 3 1 23 1 10 1 5 2 9 1 3 1 4 7 2 6 2 1 4 2 10 1 3 12
    13 1 3 1 51 1 3 1 6 4 16 2 26 1 3 1 18 3 24 1 9 1 1 2 7 3 1 4 6 1 1 1 8 6 10 2 3 12 58 4 29
    37 2 1 1 1 5 1 24 1 1 1 23 2 5 1 1 1 7 1 10 2 4 32 72 1 36 4 39 1 36 1 15 1 13 37 198 1 1 5
    1 2 377 1 4 2 7 1 1 1 4 2 41 1 4 2 33 1 4 2 7 1 1 1 4 2 15 1 57 1 4 2 67 2 32 3 26 6 86 2 6
    2 640 1 28 3 89 7 22 9 24 9 20 12 13 1 3 1 2 12 94 2 10 6 10 6 26 6 89 7 43 5 70 10 31 1 12
    4 12 4 1 3 42 2 5 11 44 4 26 6 11 3 62 2 65 1 29 2 11 6 10 6 14 2 31 49 77 1 166 8 60 3 15 3
    62 5 43 2 11 8 43 5 534 2 6 2 38 2 6 2 8 1 1 1 1 1 1 1 31 2 53 1 15 1 14 2 6 1 19 2 3 1 9 1
    14 2 20 3 1 7 54 5 8 2 27 1 13 3 33 15 33 15 140 4 666 22 11 21 40 20 1752 2 32 1 349 5 45 1
    1 5 1 2 56 7 2 14 24 9 7 1 7 1 7 1 7 1 7 1 7 1 7 1 7 1 126 34 26 1 89 12 214 42 64 1 86 2
    103 5 43 1 94 1 86 10 47 1 418 1 4 1 16 1 28852 3 55 9 348 20 184 8 206 2 2 1 1 1 8 21 59 3
    10 6 56 8 70 8 12 6 116 11 30 3 78 1 11 4 33 1 55 9 14 2 10 2 103 24 28 10 6 2 6 2 6 9 7 1 7
    1 60 4 126 2 10 6 11172 12 23 4 49 8452 366 2 106 38 7 12 5 5 26 1 5 1 1 1 2 1 2 1 125 16
    445 2 54 7 1 32 34 1 6 7 16 1 33 2 19 1 4 4 5 1 135 2 1 1 190 3 6 2 6 2 6 2 3 3 7 1 7 17 12
    1 26 1 19 1 2 1 15 2 14 34 123 5 3 4 45 3 88 1 13 3 1 47 46 130 29 3 49 15 28 4 36 9 30 5 43
    5 30 1 37 4 14 42 158 2 10 6 36 4 36 4 40 8 52 11 12 1 15 1 7 1 2 1 11 1 15 1 7 1 2 3 52 12
    311 9 22 10 8 24 6 1 42 1 9 69 6 2 1 1 44 1 2 3 1 2 23 1 72 8 9 48 19 1 2 5 33 3 27 5 1 64
    56 4 20 2 50 1 2 5 8 1 3 1 29 2 3 4 10 7 9 7 64 32 39 4 12 9 54 3 29 2 27 5 26 7 4 12 7 80
    73 55 51 13 51 7 46 8 10 6 38 3 29 8 2 208 31 1 42 1 3 2 2 16 3 55 44 8 42 22 26 38 28 20 23
    9 78 4 36 9 62 1 5 13 25 7 10 6 53 1 18 8 39 9 96 1 20 11 18 1 47 62 7 1 1 1 4 1 15 1 11 6
    59 5 10 6 4 1 8 2 2 2 22 1 7 1 2 1 5 1 10 2 2 2 3 2 1 6 1 5 7 2 7 3 5 11 10 1 1 2 1 1 38 1
    10 1 1 2 1 1 4 1 10 1 2 8 2 29 92 1 5 30 72 8 10 166 54 2 38 34 69 11 10 6 13 19 58 6 10 6
    20 28 27 2 15 4 23 185 60 100 83 12 8 2 1 2 8 1 2 1 30 1 2 2 12 9 10 70 8 2 46 2 11 27 72 8
    83 13 73 7 10 182 34 14 10 6 9 1 45 1 14 10 29 3 32 2 22 1 14 73 7 1 2 1 44 3 1 1 2 1 9 8 10
    6 6 1 2 1 37 1 2 1 6 7 10 310 25 7 17 1 41 3 29 85 1 15 50 13 923 102 111 1 5 11 196 2636 99
    13 1072 16 22 10 3995 5 583 6841 58 1734 569 7 31 1 10 4 81 1 10 6 30 2 6 10 70 10 10 1 7 1
    21 5 19 432 58 198 91 101 75 4 57 7 17 64 5 11 2 14 6136 8 1238 41 10 8935 4 1 7 1 2 1 291
    15 1 29 3 2 1 14 4 8 396 2308 107 5 13 3 9 7 10 2 8 3932 250 6 436 76 46 2 23 9 116 60 246
    10 39 2 194 21 70 122 20 12 20 12 87 9 25 135 85 1 71 1 2 2 1 2 2 2 4 1 12 1 1 1 7 1 65 1 4
    2 8 1 7 1 28 1 4 1 5 1 1 3 7 1 340 2 292 2 702 15 5 1 15 1104 31 6 6 213 7 1 17 2 7 1 2 1 5
    5 62 33 1 112 45 3 14 2 10 4 2 320 31 17 58 5 1 464 42 214 43 4 1 480 7 1 4 1 2 1 15 1 197 2
    16 41 76 4 10 4 2 785 68 76 61 194 4 1 27 1 2 1 1 2 1 1 10 1 4 1 1 1 1 6 1 4 1 1 1 1 1 1 3 1
    2 1 1 2 1 1 1 1 1 1 1 1 1 1 2 1 1 2 4 1 7 1 4 1 4 1 1 1 10 1 17 5 3 1 5 1 17 52 2 270 44 4
    100 12 15 2 15 1 15 1 37 11 173 56 29 13 44 4 9 7 2 14 6 154 984 4 17 3 13 3 119 4 95 6 12 4
    1 15 12 4 56 8 10 6 40 8 30 2 12 4 2 62 340 12 14 2 13 3 10 5 56 7 15 2 11 6 9 7 147 1 102
    1030 42720 32 4154 6 222 2 5762 14 7473 15 622 2466 542 1506 4939 5 4192 712016 240 196112"

/-- The code points that are left out. -/
def leftOut : CodeSet := CodeSet.ofRuns
  "173 1 673 1 3599 2 1619 2 85 5 2043 1 84 5 5 6 4340 1 52379 16 239 1 160 1 48383 4 5327 8
    798597 240"

/-- The code points that are replaced by one other. -/
def replacedByOne : CodeMap := CodeMap.ofText
  "65 26 1 97 160 1 1 32 170 1 1 97 178 2 1 50 181 1 1 956 185 1 1 49 186 1 1 111 192 23 1 224
    216 7 1 248 256 24 2 257 308 2 2 309 313 3 2 314 321 4 2 322 330 23 2 331 376 1 1 255 377 3
    2 378 383 1 1 115 385 1 1 595 386 2 2 387 390 1 1 596 391 1 1 392 393 2 1 598 395 1 1 396
    398 1 1 477 399 1 1 601 400 1 1 603 401 1 1 402 403 1 1 608 404 1 1 611 406 1 1 617 407 1 1
    616 408 1 1 409 412 1 1 623 413 1 1 626 415 1 1 629 416 3 2 417 422 1 1 640 423 1 1 424 425
    1 1 643 428 1 1 429 430 1 1 648 431 1 1 432 433 2 1 650 435 2 2 436 439 1 1 658 440 1 1 441
    444 1 1 445 461 8 2 462 478 9 2 479 500 1 1 501 502 1 1 405 503 1 1 447 504 20 2 505 544 1 1
    414 546 9 2 547 570 1 1 11365 571 1 1 572 573 1 1 410 574 1 1 11366 577 1 1 578 579 1 1 384
    580 1 1 649 581 1 1 652 582 5 2 583 688 2 2 104 689 1 1 614 691 1 1 114 692 1 1 633 693 1 1
    635 694 1 1 641 695 1 1 119 696 1 1 121 736 1 1 611 737 1 1 108 738 1 1 115 739 1 1 120 740
    1 1 661 832 2 1 768 835 1 1 787 837 1 1 953 880 2 2 881 884 1 1 697 886 1 1 887 894 1 1 59
    895 1 1 1011 902 1 1 940 903 1 1 183 904 3 1 941 908 1 1 972 910 2 1 973 913 17 1 945 931 9
    1 963 975 1 1 983 976 1 1 946 977 1 1 952 978 1 1 965 979 1 1 973 980 1 1 971 981 1 1 966
    982 1 1 960 984 12 2 985 1008 1 1 954 1009 1 1 961 1010 1 1 963 1012 1 1 952 1013 1 1 949
    1015 1 1 1016 1017 1 1 963 1018 1 1 1019 1021 3 1 891 1024 16 1 1104 1040 32 1 1072 1120 17
    2 1121 1162 27 2 1163 1216 1 1 1231 1217 7 2 1218 1232 48 2 1233 1329 38 1 1377 3852 1 1
    3851 4256 38 1 11520 4295 1 1 11559 4301 1 1 11565 4348 1 1 4316 5112 6 1 5104 7296 1 1 1074
    7297 1 1 1076 7298 1 1 1086 7299 2 1 1089 7301 1 1 1090 7302 1 1 1098 7303 1 1 1123 7304 1 1
    42571 7305 1 1 7306 7312 43 1 4304 7357 3 1 4349 7468 1 1 97 7469 1 1 230 7470 2 2 98 7473 5
    2 101 7474 1 1 477 7476 4 2 104 7484 1 1 111 7485 1 1 547 7486 1 1 112 7487 1 1 114 7488 2 1
    116 7490 1 1 119 7491 1 1 97 7492 2 1 592 7494 1 1 7426 7495 1 1 98 7496 2 1 100 7498 1 1
    601 7499 2 1 603 7501 1 1 103 7503 1 1 107 7504 2 2 109 7505 1 1 331 7507 1 1 596 7508 2 1
    7446 7510 1 1 112 7511 2 1 116 7513 1 1 7453 7514 1 1 623 7515 1 1 118 7516 1 1 7461 7517 3
    1 946 7520 2 1 966 7522 1 1 105 7523 1 1 114 7524 2 1 117 7526 2 1 946 7528 1 1 961 7529 2 1
    966 7544 1 1 1085 7579 1 1 594 7580 1 1 99 7581 1 1 597 7582 1 1 240 7583 1 1 604 7584 1 1
    102 7585 1 1 607 7586 1 1 609 7587 1 1 613 7588 3 1 616 7591 1 1 7547 7592 1 1 669 7593 1 1
    621 7594 1 1 7557 7595 1 1 671 7596 1 1 625 7597 1 1 624 7598 4 1 626 7602 1 1 632 7603 2 1
    642 7605 1 1 427 7606 2 1 649 7608 1 1 7452 7609 2 1 651 7611 1 1 122 7612 3 1 656 7615 1 1
    952 7680 75 2 7681 7835 1 1 7777 7838 1 1 223 7840 48 2 7841 7944 8 1 7936 7960 6 1 7952
    7976 8 1 7968 7992 8 1 7984 8008 6 1 8000 8025 4 2 8017 8040 8 1 8032 8049 1 1 940 8051 1 1
    941 8053 1 1 942 8055 1 1 943 8057 1 1 972 8059 1 1 973 8061 1 1 974 8120 2 1 8112 8122 1 1
    8048 8123 1 1 940 8126 1 1 953 8136 2 2 8050 8137 1 1 941 8139 1 1 942 8147 1 1 912 8152 2 1
    8144 8154 1 1 8054 8155 1 1 943 8163 1 1 944 8168 2 1 8160 8170 1 1 8058 8171 1 1 973 8172 1
    1 8165 8175 1 1 96 8184 1 1 8056 8185 2 2 972 8186 1 1 8060 8192 1 1 32 8193 1 1 32 8194 1 1
    32 8195 1 1 32 8196 1 1 32 8197 1 1 32 8198 1 1 32 8199 1 1 32 8200 1 1 32 8201 1 1 32 8202
    1 1 32 8209 1 1 8208 8239 1 1 32 8287 1 1 32 8304 1 1 48 8305 1 1 105 8308 6 1 52 8314 1 1
    43 8315 1 1 8722 8316 1 1 61 8317 2 1 40 8319 1 1 110 8320 10 1 48 8330 1 1 43 8331 1 1 8722
    8332 1 1 61 8333 2 1 40 8336 1 1 97 8337 1 1 101 8338 1 1 111 8339 1 1 120 8340 1 1 601 8341
    1 1 104 8342 4 1 107 8346 1 1 112 8347 2 1 115 8450 1 1 99 8455 1 1 603 8458 2 1 103 8460 1
    1 104 8461 1 1 104 8462 1 1 104 8463 1 1 295 8464 1 1 105 8465 1 1 105 8466 1 1 108 8467 2 2
    108 8473 3 1 112 8476 1 1 114 8477 1 1 114 8484 1 1 122 8486 1 1 969 8488 1 1 122 8490 1 1
    107 8491 1 1 229 8492 2 1 98 8495 1 1 101 8496 2 1 101 8498 1 1 8526 8499 1 1 109 8500 1 1
    111 8501 4 1 1488 8505 1 1 105 8508 1 1 960 8509 1 1 947 8510 1 1 947 8511 1 1 960 8512 1 1
    8721 8517 1 1 100 8518 2 1 100 8520 2 1 105 8544 1 1 105 8548 1 1 118 8553 1 1 120 8556 1 1
    108 8557 2 1 99 8559 1 1 109 8560 1 1 105 8564 1 1 118 8569 1 1 120 8572 1 1 108 8573 2 1 99
    8575 1 1 109 8579 1 1 8580 9001 2 1 12296 9312 9 1 49 9398 26 1 97 9424 26 1 97 9450 1 1 48
    11264 48 1 11312 11360 1 1 11361 11362 1 1 619 11363 1 1 7549 11364 1 1 637 11367 3 2 11368
    11373 1 1 593 11374 1 1 625 11375 1 1 592 11376 1 1 594 11378 1 1 11379 11381 1 1 11382
    11388 1 1 106 11389 1 1 118 11390 2 1 575 11392 50 2 11393 11499 2 2 11500 11506 1 1 11507
    11631 1 1 11617 11935 1 1 27597 12019 1 1 40863 12032 1 1 19968 12033 1 1 20008 12034 1 1
    20022 12035 1 1 20031 12036 1 1 20057 12037 1 1 20101 12038 1 1 20108 12039 1 1 20128 12040
    1 1 20154 12041 1 1 20799 12042 1 1 20837 12043 1 1 20843 12044 1 1 20866 12045 1 1 20886
    12046 1 1 20907 12047 1 1 20960 12048 1 1 20981 12049 1 1 20992 12050 1 1 21147 12051 1 1
    21241 12052 1 1 21269 12053 1 1 21274 12054 1 1 21304 12055 1 1 21313 12056 1 1 21340 12057
    1 1 21353 12058 1 1 21378 12059 1 1 21430 12060 1 1 21448 12061 1 1 21475 12062 1 1 22231
    12063 1 1 22303 12064 1 1 22763 12065 1 1 22786 12066 1 1 22794 12067 1 1 22805 12068 1 1
    22823 12069 1 1 22899 12070 1 1 23376 12071 1 1 23424 12072 1 1 23544 12073 1 1 23567 12074
    1 1 23586 12075 1 1 23608 12076 1 1 23662 12077 1 1 23665 12078 1 1 24027 12079 1 1 24037
    12080 1 1 24049 12081 1 1 24062 12082 1 1 24178 12083 1 1 24186 12084 1 1 24191 12085 1 1
    24308 12086 1 1 24318 12087 1 1 24331 12088 1 1 24339 12089 1 1 24400 12090 1 1 24417 12091
    1 1 24435 12092 1 1 24515 12093 1 1 25096 12094 1 1 25142 12095 1 1 25163 12096 1 1 25903
    12097 1 1 25908 12098 1 1 25991 12099 1 1 26007 12100 1 1 26020 12101 1 1 26041 12102 1 1
    26080 12103 1 1 26085 12104 1 1 26352 12105 1 1 26376 12106 1 1 26408 12107 1 1 27424 12108
    1 1 27490 12109 1 1 27513 12110 1 1 27571 12111 1 1 27595 12112 1 1 27604 12113 1 1 27611
    12114 1 1 27663 12115 1 1 27668 12116 1 1 27700 12117 1 1 28779 12118 1 1 29226 12119 1 1
    29238 12120 1 1 29243 12121 1 1 29247 12122 1 1 29255 12123 1 1 29273 12124 1 1 29275 12125
    1 1 29356 12126 1 1 29572 12127 1 1 29577 12128 1 1 29916 12129 1 1 29926 12130 1 1 29976
    12131 1 1 29983 12132 1 1 29992 12133 1 1 30000 12134 1 1 30091 12135 1 1 30098 12136 1 1
    30326 12137 1 1 30333 12138 1 1 30382 12139 1 1 30399 12140 1 1 30446 12141 1 1 30683 12142
    1 1 30690 12143 1 1 30707 12144 1 1 31034 12145 1 1 31160 12146 1 1 31166 12147 1 1 31348
    12148 1 1 31435 12149 1 1 31481 12150 1 1 31859 12151 1 1 31992 12152 1 1 32566 12153 1 1
    32593 12154 1 1 32650 12155 1 1 32701 12156 1 1 32769 12157 1 1 32780 12158 1 1 32786 12159
    1 1 32819 12160 1 1 32895 12161 1 1 32905 12162 1 1 33251 12163 1 1 33258 12164 1 1 33267
    12165 1 1 33276 12166 1 1 33292 12167 1 1 33307 12168 1 1 33311 12169 1 1 33390 12170 1 1
    33394 12171 1 1 33400 12172 1 1 34381 12173 1 1 34411 12174 1 1 34880 12175 1 1 34892 12176
    1 1 34915 12177 1 1 35198 12178 1 1 35211 12179 1 1 35282 12180 1 1 35328 12181 1 1 35895
    12182 1 1 35910 12183 1 1 35925 12184 1 1 35960 12185 1 1 35997 12186 1 1 36196 12187 1 1
    36208 12188 1 1 36275 12189 1 1 36523 12190 1 1 36554 12191 1 1 36763 12192 1 1 36784 12193
    1 1 36789 12194 1 1 37009 12195 1 1 37193 12196 1 1 37318 12197 1 1 37324 12198 1 1 37329
    12199 1 1 38263 12200 1 1 38272 12201 1 1 38428 12202 1 1 38582 12203 1 1 38585 12204 1 1
    38632 12205 1 1 38737 12206 1 1 38750 12207 1 1 38754 12208 1 1 38761 12209 1 1 38859 12210
    1 1 38893 12211 1 1 38899 12212 1 1 38913 12213 1 1 39080 12214 1 1 39131 12215 1 1 39135
    12216 1 1 39318 12217 1 1 39321 12218 1 1 39340 12219 1 1 39592 12220 1 1 39640 12221 1 1
    39647 12222 1 1 39717 12223 1 1 39727 12224 1 1 39730 12225 1 1 39740 12226 1 1 39770 12227
    1 1 40165 12228 1 1 40565 12229 1 1 40575 12230 1 1 40613 12231 1 1 40635 12232 1 1 40643
    12233 1 1 40653 12234 1 1 40657 12235 1 1 40697 12236 1 1 40701 12237 1 1 40718 12238 1 1
    40723 12239 1 1 40736 12240 1 1 40763 12241 1 1 40778 12242 1 1 40786 12243 1 1 40845 12244
    1 1 40860 12245 1 1 40864 12288 1 1 32 12290 1 1 46 12342 1 1 12306 12344 1 1 21313 12345 2
    1 21316 12593 2 1 4352 12595 2 2 4522 12596 1 1 4354 12598 1 1 4525 12599 3 1 4355 12602 6 1
    4528 12608 1 1 4378 12609 3 1 4358 12612 1 1 4385 12613 10 1 4361 12623 21 1 4449 12645 2 1
    4372 12647 2 1 4551 12649 1 1 4556 12650 1 1 4558 12651 1 1 4563 12652 1 1 4567 12653 1 1
    4569 12654 1 1 4380 12655 1 1 4573 12656 1 1 4575 12657 2 1 4381 12659 1 1 4384 12660 2 1
    4386 12662 1 1 4391 12663 1 1 4393 12664 5 1 4395 12669 1 1 4402 12670 1 1 4406 12671 1 1
    4416 12672 1 1 4423 12673 1 1 4428 12674 2 1 4593 12676 3 1 4439 12679 2 1 4484 12681 1 1
    4488 12682 2 1 4497 12684 1 1 4500 12685 1 1 4510 12686 1 1 4513 12690 1 1 19968 12691 1 1
    20108 12692 1 1 19977 12693 1 1 22235 12694 1 1 19978 12695 1 1 20013 12696 1 1 19979 12697
    1 1 30002 12698 1 1 20057 12699 1 1 19993 12700 1 1 19969 12701 1 1 22825 12702 1 1 22320
    12703 1 1 20154 12868 1 1 21839 12869 1 1 24188 12870 1 1 25991 12871 1 1 31631 12896 1 1
    4352 12897 2 1 4354 12899 3 1 4357 12902 1 1 4361 12903 2 1 4363 12905 5 1 4366 12910 1 1
    44032 12911 1 1 45208 12912 1 1 45796 12913 1 1 46972 12914 1 1 47560 12915 1 1 48148 12916
    1 1 49324 12917 1 1 50500 12918 1 1 51088 12919 1 1 52264 12920 1 1 52852 12921 1 1 53440
    12922 1 1 54028 12923 1 1 54616 12926 1 1 50864 12928 1 1 19968 12929 1 1 20108 12930 1 1
    19977 12931 1 1 22235 12932 1 1 20116 12933 1 1 20845 12934 1 1 19971 12935 1 1 20843 12936
    1 1 20061 12937 1 1 21313 12938 1 1 26376 12939 1 1 28779 12940 1 1 27700 12941 1 1 26408
    12942 1 1 37329 12943 1 1 22303 12944 1 1 26085 12945 1 1 26666 12946 1 1 26377 12947 1 1
    31038 12948 1 1 21517 12949 1 1 29305 12950 1 1 36001 12951 1 1 31069 12952 1 1 21172 12953
    1 1 31192 12954 1 1 30007 12955 1 1 22899 12956 1 1 36969 12957 1 1 20778 12958 1 1 21360
    12959 1 1 27880 12960 1 1 38917 12961 1 1 20241 12962 1 1 20889 12963 1 1 27491 12964 1 1
    19978 12965 1 1 20013 12966 1 1 19979 12967 1 1 24038 12968 1 1 21491 12969 1 1 21307 12970
    1 1 23447 12971 1 1 23398 12972 1 1 30435 12973 1 1 20225 12974 1 1 36039 12975 1 1 21332
    12976 1 1 22812 13008 1 1 12450 13009 1 1 12452 13010 1 1 12454 13011 1 1 12456 13012 2 1
    12458 13014 1 1 12461 13015 1 1 12463 13016 1 1 12465 13017 1 1 12467 13018 1 1 12469 13019
    1 1 12471 13020 1 1 12473 13021 1 1 12475 13022 1 1 12477 13023 1 1 12479 13024 1 1 12481
    13025 1 1 12484 13026 1 1 12486 13027 1 1 12488 13028 6 1 12490 13034 1 1 12498 13035 1 1
    12501 13036 1 1 12504 13037 1 1 12507 13038 5 1 12510 13043 1 1 12516 13044 1 1 12518 13045
    6 1 12520 13051 4 1 12527 42560 23 2 42561 42624 14 2 42625 42652 1 1 1098 42653 1 1 1100
    42786 7 2 42787 42802 31 2 42803 42864 1 1 42863 42873 2 2 42874 42877 1 1 7545 42878 5 2
    42879 42891 1 1 42892 42893 1 1 613 42896 2 2 42897 42902 10 2 42903 42922 1 1 614 42923 1 1
    604 42924 1 1 609 42925 1 1 620 42926 1 1 618 42928 1 1 670 42929 1 1 647 42930 1 1 669
    42931 1 1 43859 42932 8 2 42933 42948 1 1 42900 42949 1 1 642 42950 1 1 7566 42951 2 2 42952
    42955 1 1 612 42956 1 1 42957 42960 1 1 42961 42966 3 2 42967 42972 1 1 411 42993 1 1 115
    42994 1 1 99 42995 1 1 102 42996 1 1 113 42997 1 1 42998 43000 1 1 295 43001 1 1 339 43868 1
    1 42791 43869 1 1 43831 43870 1 1 619 43871 1 1 43858 43881 1 1 653 43888 80 1 5024 63744 1
    1 35912 63745 1 1 26356 63746 1 1 36554 63747 1 1 36040 63748 1 1 28369 63749 1 1 20018
    63750 1 1 21477 63751 1 1 40860 63752 1 1 40860 63753 1 1 22865 63754 1 1 37329 63755 1 1
    21895 63756 1 1 22856 63757 1 1 25078 63758 1 1 30313 63759 1 1 32645 63760 1 1 34367 63761
    1 1 34746 63762 1 1 35064 63763 1 1 37007 63764 1 1 27138 63765 1 1 27931 63766 1 1 28889
    63767 1 1 29662 63768 1 1 33853 63769 1 1 37226 63770 1 1 39409 63771 1 1 20098 63772 1 1
    21365 63773 1 1 27396 63774 1 1 29211 63775 1 1 34349 63776 1 1 40478 63777 1 1 23888 63778
    1 1 28651 63779 1 1 34253 63780 1 1 35172 63781 1 1 25289 63782 1 1 33240 63783 1 1 34847
    63784 1 1 24266 63785 1 1 26391 63786 1 1 28010 63787 1 1 29436 63788 1 1 37070 63789 1 1
    20358 63790 1 1 20919 63791 1 1 21214 63792 1 1 25796 63793 1 1 27347 63794 1 1 29200 63795
    1 1 30439 63796 1 1 32769 63797 1 1 34310 63798 1 1 34396 63799 1 1 36335 63800 1 1 38706
    63801 1 1 39791 63802 1 1 40442 63803 1 1 30860 63804 1 1 31103 63805 1 1 32160 63806 1 1
    33737 63807 1 1 37636 63808 1 1 40575 63809 1 1 35542 63810 1 1 22751 63811 1 1 24324 63812
    1 1 31840 63813 1 1 32894 63814 1 1 29282 63815 1 1 30922 63816 1 1 36034 63817 1 1 38647
    63818 1 1 22744 63819 1 1 23650 63820 1 1 27155 63821 1 1 28122 63822 1 1 28431 63823 1 1
    32047 63824 1 1 32311 63825 1 1 38475 63826 1 1 21202 63827 1 1 32907 63828 1 1 20956 63829
    1 1 20940 63830 1 1 31260 63831 1 1 32190 63832 1 1 33777 63833 1 1 38517 63834 1 1 35712
    63835 1 1 25295 63836 1 1 27138 63837 1 1 35582 63838 1 1 20025 63839 1 1 23527 63840 1 1
    24594 63841 1 1 29575 63842 1 1 30064 63843 1 1 21271 63844 1 1 30971 63845 1 1 20415 63846
    1 1 24489 63847 1 1 19981 63848 1 1 27852 63849 1 1 25976 63850 1 1 32034 63851 1 1 21443
    63852 1 1 22622 63853 1 1 30465 63854 1 1 33865 63855 1 1 35498 63856 1 1 27578 63857 1 1
    36784 63858 1 1 27784 63859 1 1 25342 63860 1 1 33509 63861 1 1 25504 63862 1 1 30053 63863
    1 1 20142 63864 1 1 20841 63865 1 1 20937 63866 1 1 26753 63867 1 1 31975 63868 1 1 33391
    63869 1 1 35538 63870 1 1 37327 63871 1 1 21237 63872 1 1 21570 63873 1 1 22899 63874 1 1
    24300 63875 1 1 26053 63876 1 1 28670 63877 1 1 31018 63878 1 1 38317 63879 1 1 39530 63880
    1 1 40599 63881 1 1 40654 63882 1 1 21147 63883 1 1 26310 63884 1 1 27511 63885 1 1 36706
    63886 1 1 24180 63887 1 1 24976 63888 1 1 25088 63889 1 1 25754 63890 1 1 28451 63891 1 1
    29001 63892 1 1 29833 63893 1 1 31178 63894 1 1 32244 63895 1 1 32879 63896 1 1 36646 63897
    1 1 34030 63898 1 1 36899 63899 1 1 37706 63900 1 1 21015 63901 1 1 21155 63902 1 1 21693
    63903 1 1 28872 63904 1 1 35010 63905 1 1 35498 63906 1 1 24265 63907 1 1 24565 63908 1 1
    25467 63909 1 1 27566 63910 1 1 31806 63911 1 1 29557 63912 1 1 20196 63913 1 1 22265 63914
    1 1 23527 63915 1 1 23994 63916 1 1 24604 63917 1 1 29618 63918 1 1 29801 63919 1 1 32666
    63920 1 1 32838 63921 1 1 37428 63922 1 1 38646 63923 1 1 38728 63924 1 1 38936 63925 1 1
    20363 63926 1 1 31150 63927 1 1 37300 63928 1 1 38584 63929 1 1 24801 63930 1 1 20102 63931
    1 1 20698 63932 1 1 23534 63933 1 1 23615 63934 1 1 26009 63935 1 1 27138 63936 1 1 29134
    63937 1 1 30274 63938 1 1 34044 63939 1 1 36988 63940 1 1 40845 63941 1 1 26248 63942 1 1
    38446 63943 1 1 21129 63944 1 1 26491 63945 1 1 26611 63946 1 1 27969 63947 1 1 28316 63948
    1 1 29705 63949 1 1 30041 63950 1 1 30827 63951 1 1 32016 63952 1 1 39006 63953 1 1 20845
    63954 1 1 25134 63955 1 1 38520 63956 1 1 20523 63957 1 1 23833 63958 1 1 28138 63959 1 1
    36650 63960 1 1 24459 63961 1 1 24900 63962 1 1 26647 63963 1 1 29575 63964 1 1 38534 63965
    1 1 21033 63966 1 1 21519 63967 1 1 23653 63968 1 1 26131 63969 1 1 26446 63970 1 1 26792
    63971 1 1 27877 63972 1 1 29702 63973 1 1 30178 63974 1 1 32633 63975 1 1 35023 63976 1 1
    35041 63977 1 1 37324 63978 1 1 38626 63979 1 1 21311 63980 1 1 28346 63981 1 1 21533 63982
    1 1 29136 63983 1 1 29848 63984 1 1 34298 63985 1 1 38563 63986 1 1 40023 63987 1 1 40607
    63988 1 1 26519 63989 1 1 28107 63990 1 1 33256 63991 1 1 31435 63992 1 1 31520 63993 1 1
    31890 63994 1 1 29376 63995 1 1 28825 63996 1 1 35672 63997 1 1 20160 63998 1 1 33590 63999
    1 1 21050 64000 1 1 20999 64001 1 1 24230 64002 1 1 25299 64003 1 1 31958 64004 1 1 23429
    64005 1 1 27934 64006 1 1 26292 64007 1 1 36667 64008 1 1 34892 64009 1 1 38477 64010 1 1
    35211 64011 1 1 24275 64012 1 1 20800 64013 1 1 21952 64016 1 1 22618 64018 1 1 26228 64021
    1 1 20958 64022 1 1 29482 64023 1 1 30410 64024 1 1 31036 64025 1 1 31070 64026 1 1 31077
    64027 1 1 31119 64028 1 1 38742 64029 1 1 31934 64030 1 1 32701 64032 1 1 34322 64034 1 1
    35576 64037 1 1 36920 64038 1 1 37117 64042 1 1 39151 64043 1 1 39164 64044 1 1 39208 64045
    1 1 40372 64046 1 1 37086 64047 1 1 38583 64048 1 1 20398 64049 1 1 20711 64050 1 1 20813
    64051 1 1 21193 64052 1 1 21220 64053 1 1 21329 64054 1 1 21917 64055 1 1 22022 64056 1 1
    22120 64057 1 1 22592 64058 1 1 22696 64059 1 1 23652 64060 1 1 23662 64061 1 1 24724 64062
    1 1 24936 64063 1 1 24974 64064 1 1 25074 64065 1 1 25935 64066 1 1 26082 64067 1 1 26257
    64068 1 1 26757 64069 1 1 28023 64070 1 1 28186 64071 1 1 28450 64072 1 1 29038 64073 1 1
    29227 64074 1 1 29730 64075 1 1 30865 64076 1 1 31038 64077 1 1 31049 64078 1 1 31048 64079
    1 1 31056 64080 1 1 31062 64081 1 1 31069 64082 2 1 31117 64084 1 1 31296 64085 1 1 31361
    64086 1 1 31680 64087 1 1 32244 64088 1 1 32265 64089 1 1 32321 64090 1 1 32626 64091 1 1
    32773 64092 1 1 33261 64093 1 1 33401 64094 1 1 33401 64095 1 1 33879 64096 1 1 35088 64097
    1 1 35222 64098 1 1 35585 64099 1 1 35641 64100 1 1 36051 64101 1 1 36104 64102 1 1 36790
    64103 1 1 36920 64104 1 1 38627 64105 1 1 38911 64106 1 1 38971 64107 1 1 24693 64108 1 1
    148206 64109 1 1 33304 64112 1 1 20006 64113 1 1 20917 64114 1 1 20840 64115 1 1 20352 64116
    1 1 20805 64117 1 1 20864 64118 1 1 21191 64119 1 1 21242 64120 1 1 21917 64121 1 1 21845
    64122 1 1 21913 64123 1 1 21986 64124 1 1 22618 64125 1 1 22707 64126 1 1 22852 64127 1 1
    22868 64128 1 1 23138 64129 1 1 23336 64130 1 1 24274 64131 1 1 24281 64132 1 1 24425 64133
    1 1 24493 64134 1 1 24792 64135 1 1 24910 64136 1 1 24840 64137 1 1 24974 64138 1 1 24928
    64139 1 1 25074 64140 1 1 25140 64141 1 1 25540 64142 1 1 25628 64143 1 1 25682 64144 1 1
    25942 64145 1 1 26228 64146 1 1 26391 64147 1 1 26395 64148 1 1 26454 64149 1 1 27513 64150
    1 1 27578 64151 1 1 27969 64152 1 1 28379 64153 1 1 28363 64154 1 1 28450 64155 1 1 28702
    64156 1 1 29038 64157 1 1 30631 64158 1 1 29237 64159 1 1 29359 64160 1 1 29482 64161 1 1
    29809 64162 1 1 29958 64163 1 1 30011 64164 1 1 30237 64165 1 1 30239 64166 1 1 30410 64167
    1 1 30427 64168 1 1 30452 64169 1 1 30538 64170 1 1 30528 64171 1 1 30924 64172 1 1 31409
    64173 1 1 31680 64174 1 1 31867 64175 1 1 32091 64176 1 1 32244 64177 1 1 32574 64178 1 1
    32773 64179 1 1 33618 64180 1 1 33775 64181 1 1 34681 64182 1 1 35137 64183 1 1 35206 64184
    1 1 35222 64185 1 1 35519 64186 1 1 35576 64187 1 1 35531 64188 1 1 35585 64189 1 1 35582
    64190 1 1 35565 64191 1 1 35641 64192 1 1 35722 64193 1 1 36104 64194 1 1 36664 64195 1 1
    36978 64196 1 1 37273 64197 1 1 37494 64198 1 1 38524 64199 1 1 38627 64200 1 1 38742 64201
    1 1 38875 64202 1 1 38911 64203 1 1 38923 64204 1 1 38971 64205 1 1 39698 64206 1 1 40860
    64207 1 1 141386 64208 1 1 141380 64209 1 1 144341 64210 1 1 15261 64211 1 1 16408 64212 1 1
    16441 64213 1 1 152137 64214 1 1 154832 64215 1 1 163539 64216 1 1 40771 64217 1 1 40846
    64288 1 1 1506 64289 1 1 1488 64290 2 1 1491 64292 3 1 1499 64295 1 1 1512 64296 1 1 1514
    64297 1 1 43 64336 1 1 1649 64337 1 1 1649 64338 1 1 1659 64339 1 1 1659 64340 1 1 1659
    64341 1 1 1659 64342 1 1 1662 64343 1 1 1662 64344 2 2 1662 64345 2 2 1662 64348 1 1 1664
    64349 1 1 1664 64350 1 1 1658 64351 1 1 1658 64352 1 1 1658 64353 1 1 1658 64354 1 1 1663
    64355 1 1 1663 64356 1 1 1663 64357 1 1 1663 64358 1 1 1657 64359 1 1 1657 64360 1 1 1657
    64361 1 1 1657 64362 1 1 1700 64363 1 1 1700 64364 2 2 1700 64365 2 2 1700 64368 1 1 1702
    64369 1 1 1702 64370 1 1 1668 64371 1 1 1668 64372 1 1 1668 64373 1 1 1668 64374 1 1 1667
    64375 1 1 1667 64376 1 1 1667 64377 1 1 1667 64378 1 1 1670 64379 1 1 1670 64380 1 1 1670
    64381 2 1 1670 64383 1 1 1671 64384 1 1 1671 64385 1 1 1671 64386 1 1 1677 64387 1 1 1677
    64388 2 2 1676 64389 2 2 1676 64392 1 1 1672 64393 1 1 1672 64394 1 1 1688 64395 1 1 1688
    64396 1 1 1681 64397 1 1 1681 64398 1 1 1705 64399 1 1 1705 64400 1 1 1705 64401 1 1 1705
    64402 1 1 1711 64403 1 1 1711 64404 1 1 1711 64405 1 1 1711 64406 1 1 1715 64407 1 1 1715
    64408 1 1 1715 64409 1 1 1715 64410 1 1 1713 64411 1 1 1713 64412 1 1 1713 64413 1 1 1713
    64414 1 1 1722 64415 2 1 1722 64417 1 1 1723 64418 1 1 1723 64419 1 1 1723 64420 1 1 1728
    64421 2 1 1728 64423 1 1 1729 64424 1 1 1729 64425 1 1 1729 64426 1 1 1726 64427 1 1 1726
    64428 1 1 1726 64429 1 1 1726 64430 1 1 1746 64431 2 1 1746 64433 1 1 1747 64467 1 1 1709
    64468 1 1 1709 64469 1 1 1709 64470 1 1 1709 64471 1 1 1735 64472 1 1 1735 64473 2 2 1734
    64474 2 2 1734 64478 1 1 1739 64479 1 1 1739 64480 1 1 1733 64481 1 1 1733 64482 1 1 1737
    64483 1 1 1737 64484 1 1 1744 64485 1 1 1744 64486 1 1 1744 64487 1 1 1744 64488 1 1 1609
    64489 1 1 1609 64508 1 1 1740 64509 1 1 1740 64510 1 1 1740 64511 1 1 1740 65040 1 1 44
    65041 1 1 12289 65043 2 1 58 65045 1 1 33 65046 1 1 63 65047 2 1 12310 65073 1 1 8212 65074
    1 1 8211 65075 1 1 95 65076 1 1 95 65077 2 1 40 65079 1 1 123 65080 1 1 125 65081 2 1 12308
    65083 2 1 12304 65085 2 1 12298 65087 2 1 12296 65089 4 1 12300 65095 1 1 91 65096 1 1 93
    65101 1 1 95 65102 1 1 95 65103 1 1 95 65104 1 1 44 65105 1 1 12289 65108 1 1 59 65109 1 1
    58 65110 1 1 63 65111 1 1 33 65112 1 1 8212 65113 2 1 40 65115 1 1 123 65116 1 1 125 65117 2
    1 12308 65119 1 1 35 65120 1 1 38 65121 2 1 42 65123 1 1 45 65124 1 1 60 65125 1 1 62 65126
    1 1 61 65128 1 1 92 65129 2 1 36 65131 1 1 64 65152 2 1 1569 65154 2 1 1570 65156 2 1 1571
    65158 2 1 1572 65160 2 1 1573 65162 1 1 1574 65163 1 1 1574 65164 2 1 1574 65166 2 1 1575
    65168 1 1 1576 65169 1 1 1576 65170 2 1 1576 65172 2 1 1577 65174 1 1 1578 65175 1 1 1578
    65176 2 1 1578 65178 1 1 1579 65179 1 1 1579 65180 2 1 1579 65182 1 1 1580 65183 1 1 1580
    65184 2 1 1580 65186 1 1 1581 65187 1 1 1581 65188 2 1 1581 65190 1 1 1582 65191 1 1 1582
    65192 2 1 1582 65194 2 1 1583 65196 2 1 1584 65198 2 1 1585 65200 2 1 1586 65202 1 1 1587
    65203 1 1 1587 65204 2 1 1587 65206 1 1 1588 65207 1 1 1588 65208 2 1 1588 65210 1 1 1589
    65211 1 1 1589 65212 2 1 1589 65214 1 1 1590 65215 1 1 1590 65216 2 1 1590 65218 1 1 1591
    65219 1 1 1591 65220 2 1 1591 65222 1 1 1592 65223 1 1 1592 65224 2 1 1592 65226 1 1 1593
    65227 1 1 1593 65228 2 1 1593 65230 1 1 1594 65231 1 1 1594 65232 1 1 1594 65233 1 1 1601
    65234 1 1 1601 65235 1 1 1601 65236 2 1 1601 65238 1 1 1602 65239 1 1 1602 65240 2 1 1602
    65242 1 1 1603 65243 1 1 1603 65244 2 1 1603 65246 1 1 1604 65247 1 1 1604 65248 2 1 1604
    65250 1 1 1605 65251 1 1 1605 65252 2 1 1605 65254 1 1 1606 65255 1 1 1606 65256 2 1 1606
    65258 1 1 1607 65259 1 1 1607 65260 2 1 1607 65262 2 1 1608 65264 2 1 1609 65266 1 1 1610
    65267 1 1 1610 65268 1 1 1610 65281 32 1 33 65313 26 1 97 65339 36 1 91 65375 2 1 10629
    65377 1 1 46 65378 2 1 12300 65380 1 1 12289 65381 1 1 12539 65382 1 1 12530 65383 1 1 12449
    65384 1 1 12451 65385 1 1 12453 65386 1 1 12455 65387 1 1 12457 65388 1 1 12515 65389 1 1
    12517 65390 1 1 12519 65391 1 1 12483 65392 1 1 12540 65393 1 1 12450 65394 1 1 12452 65395
    1 1 12454 65396 1 1 12456 65397 2 1 12458 65399 1 1 12461 65400 1 1 12463 65401 1 1 12465
    65402 1 1 12467 65403 1 1 12469 65404 1 1 12471 65405 1 1 12473 65406 1 1 12475 65407 1 1
    12477 65408 1 1 12479 65409 1 1 12481 65410 1 1 12484 65411 1 1 12486 65412 1 1 12488 65413
    6 1 12490 65419 1 1 12498 65420 1 1 12501 65421 1 1 12504 65422 1 1 12507 65423 5 1 12510
    65428 1 1 12516 65429 1 1 12518 65430 6 1 12520 65436 1 1 12527 65437 1 1 12531 65438 2 1
    12441 65441 2 1 4352 65443 2 2 4522 65444 1 1 4354 65446 1 1 4525 65447 3 1 4355 65450 6 1
    4528 65456 1 1 4378 65457 3 1 4358 65460 1 1 4385 65461 10 1 4361 65474 6 1 4449 65482 6 1
    4455 65490 6 1 4461 65498 3 1 4467 65504 2 1 162 65506 1 1 172 65508 1 1 166 65509 1 1 165
    65510 1 1 8361 65512 1 1 9474 65513 4 1 8592 65517 1 1 9632 65518 1 1 9675 66560 40 1 66600
    66736 36 1 66776 66928 19 2 66967 66929 5 2 66968 66941 7 2 66980 66957 3 2 66996 66965 1 1
    67004 67457 2 1 720 67459 1 1 230 67460 1 1 665 67461 1 1 595 67463 2 2 675 67464 1 1 43878
    67466 1 1 676 67467 2 1 598 67469 1 1 7569 67470 1 1 600 67471 1 1 606 67472 1 1 681 67473 1
    1 612 67474 1 1 610 67475 1 1 608 67476 1 1 667 67477 1 1 295 67478 1 1 668 67479 1 1 615
    67480 1 1 644 67481 2 1 682 67483 1 1 620 67484 1 1 122628 67485 1 1 42894 67486 1 1 622
    67487 1 1 122629 67488 1 1 654 67489 1 1 122630 67490 1 1 248 67491 2 1 630 67493 1 1 113
    67494 1 1 634 67495 1 1 122632 67496 2 1 637 67498 1 1 640 67499 1 1 680 67500 1 1 678 67501
    1 1 43879 67502 1 1 679 67503 1 1 648 67504 1 1 11377 67506 1 1 655 67507 2 1 673 67509 1 1
    664 67510 3 1 448 67513 1 1 122634 67514 1 1 122654 68736 51 1 68800 68944 22 1 68976 71840
    32 1 71872 93760 32 1 93792 117974 26 1 97 118000 10 1 48 119808 26 1 97 119834 26 1 97
    119860 26 1 97 119886 13 2 97 119887 3 2 98 119895 9 2 106 119912 26 1 97 119938 26 1 97
    119964 2 2 97 119967 1 1 100 119970 1 1 103 119973 2 1 106 119977 4 1 110 119982 8 1 115
    119990 4 1 97 119995 11 2 102 119998 3 2 105 120006 5 2 113 120016 26 1 97 120042 26 1 97
    120068 2 1 97 120071 4 1 100 120077 8 1 106 120086 7 1 115 120094 26 1 97 120120 2 1 97
    120123 4 1 100 120128 5 1 105 120134 1 1 111 120138 7 1 115 120146 26 1 97 120172 26 1 97
    120198 26 1 97 120224 26 1 97 120250 26 1 97 120276 26 1 97 120302 26 1 97 120328 26 1 97
    120354 26 1 97 120380 26 1 97 120406 26 1 97 120432 26 1 97 120458 26 1 97 120484 1 1 305
    120485 1 1 567 120488 17 1 945 120505 1 1 952 120506 7 1 963 120513 1 1 8711 120514 17 1 945
    120531 1 1 963 120532 7 1 963 120539 1 1 8706 120540 1 1 949 120541 1 1 952 120542 1 1 954
    120543 1 1 966 120544 1 1 961 120545 1 1 960 120546 17 1 945 120563 1 1 952 120564 7 1 963
    120571 1 1 8711 120572 17 1 945 120589 1 1 963 120590 7 1 963 120597 1 1 8706 120598 1 1 949
    120599 1 1 952 120600 1 1 954 120601 1 1 966 120602 1 1 961 120603 1 1 960 120604 17 1 945
    120621 1 1 952 120622 7 1 963 120629 1 1 8711 120630 17 1 945 120647 1 1 963 120648 7 1 963
    120655 1 1 8706 120656 1 1 949 120657 1 1 952 120658 1 1 954 120659 1 1 966 120660 1 1 961
    120661 1 1 960 120662 17 1 945 120679 1 1 952 120680 7 1 963 120687 1 1 8711 120688 17 1 945
    120705 1 1 963 120706 7 1 963 120713 1 1 8706 120714 1 1 949 120715 1 1 952 120716 1 1 954
    120717 1 1 966 120718 1 1 961 120719 1 1 960 120720 17 1 945 120737 1 1 952 120738 7 1 963
    120745 1 1 8711 120746 17 1 945 120763 1 1 963 120764 7 1 963 120771 1 1 8706 120772 1 1 949
    120773 1 1 952 120774 1 1 954 120775 1 1 966 120776 1 1 961 120777 1 1 960 120778 1 1 989
    120779 1 1 989 120782 10 1 48 120792 10 1 48 120802 10 1 48 120812 10 1 48 120822 10 1 48
    122928 9 1 1072 122937 3 1 1082 122940 11 1 1086 122951 1 1 1099 122952 2 1 1101 122954 1 1
    42633 122955 1 1 1241 122956 1 1 1110 122957 1 1 1112 122958 1 1 1257 122959 1 1 1199 122960
    1 1 1231 122961 9 1 1072 122970 2 1 1082 122972 2 1 1086 122974 1 1 1089 122975 6 1 1091
    122981 2 1 1098 122983 1 1 1169 122984 1 1 1110 122985 1 1 1109 122986 1 1 1119 122987 1 1
    1195 122988 1 1 42577 122989 1 1 1201 125184 34 1 125218 126464 2 1 1575 126466 1 1 1580
    126467 1 1 1583 126469 1 1 1608 126470 1 1 1586 126471 1 1 1581 126472 1 1 1591 126473 1 1
    1610 126474 4 1 1603 126478 1 1 1587 126479 1 1 1593 126480 1 1 1601 126481 1 1 1589 126482
    1 1 1602 126483 1 1 1585 126484 1 1 1588 126485 2 1 1578 126487 1 1 1582 126488 1 1 1584
    126489 1 1 1590 126490 1 1 1592 126491 1 1 1594 126492 1 1 1646 126493 1 1 1722 126494 1 1
    1697 126495 1 1 1647 126497 1 1 1576 126498 1 1 1580 126500 1 1 1607 126503 1 1 1581 126505
    1 1 1610 126506 4 1 1603 126510 1 1 1587 126511 1 1 1593 126512 1 1 1601 126513 1 1 1589
    126514 1 1 1602 126516 1 1 1588 126517 2 1 1578 126519 1 1 1582 126521 1 1 1590 126523 1 1
    1594 126530 1 1 1580 126535 1 1 1581 126537 1 1 1610 126539 2 2 1604 126542 1 1 1587 126543
    1 1 1593 126545 1 1 1589 126546 1 1 1602 126548 1 1 1588 126551 1 1 1582 126553 1 1 1590
    126555 1 1 1594 126557 1 1 1722 126559 1 1 1647 126561 1 1 1576 126562 1 1 1580 126564 1 1
    1607 126567 1 1 1581 126568 1 1 1591 126569 1 1 1610 126570 2 2 1603 126573 1 1 1606 126574
    1 1 1587 126575 1 1 1593 126576 1 1 1601 126577 1 1 1589 126578 1 1 1602 126580 1 1 1588
    126581 2 1 1578 126583 1 1 1582 126585 1 1 1590 126586 1 1 1592 126587 1 1 1594 126588 1 1
    1646 126590 1 1 1697 126592 2 1 1575 126594 1 1 1580 126595 1 1 1583 126596 2 1 1607 126598
    1 1 1586 126599 1 1 1581 126600 1 1 1591 126601 1 1 1610 126603 3 1 1604 126606 1 1 1587
    126607 1 1 1593 126608 1 1 1601 126609 1 1 1589 126610 1 1 1602 126611 1 1 1585 126612 1 1
    1588 126613 2 1 1578 126615 1 1 1582 126616 1 1 1584 126617 1 1 1590 126618 1 1 1592 126619
    1 1 1594 126625 1 1 1576 126626 1 1 1580 126627 1 1 1583 126629 1 1 1608 126630 1 1 1586
    126631 1 1 1581 126632 1 1 1591 126633 1 1 1610 126635 3 1 1604 126638 1 1 1587 126639 1 1
    1593 126640 1 1 1601 126641 1 1 1589 126642 1 1 1602 126643 1 1 1585 126644 1 1 1588 126645
    2 1 1578 126647 1 1 1582 126648 1 1 1584 126649 1 1 1590 126650 1 1 1592 126651 1 1 1594
    127275 1 1 99 127276 1 1 114 127280 26 1 97 127490 1 1 12469 127504 1 1 25163 127505 1 1
    23383 127506 1 1 21452 127507 1 1 12487 127508 1 1 20108 127509 1 1 22810 127510 1 1 35299
    127511 1 1 22825 127512 1 1 20132 127513 1 1 26144 127514 1 1 28961 127515 1 1 26009 127516
    1 1 21069 127517 1 1 24460 127518 1 1 20877 127519 1 1 26032 127520 1 1 21021 127521 1 1
    32066 127522 1 1 29983 127523 1 1 36009 127524 1 1 22768 127525 1 1 21561 127526 1 1 28436
    127527 1 1 25237 127528 1 1 25429 127529 1 1 19968 127530 1 1 19977 127531 1 1 36938 127532
    1 1 24038 127533 1 1 20013 127534 1 1 21491 127535 1 1 25351 127536 1 1 36208 127537 1 1
    25171 127538 1 1 31105 127539 1 1 31354 127540 1 1 21512 127541 1 1 28288 127542 1 1 26377
    127543 1 1 26376 127544 1 1 30003 127545 1 1 21106 127546 1 1 21942 127547 1 1 37197 127568
    1 1 24471 127569 1 1 21487 130032 10 1 48 194560 1 1 20029 194561 1 1 20024 194562 1 1 20033
    194563 1 1 131362 194564 1 1 20320 194565 1 1 20398 194566 1 1 20411 194567 1 1 20482 194568
    1 1 20602 194569 1 1 20633 194570 1 1 20711 194571 1 1 20687 194572 1 1 13470 194573 1 1
    132666 194574 1 1 20813 194575 1 1 20820 194576 1 1 20836 194577 1 1 20855 194578 1 1 132380
    194579 1 1 13497 194580 1 1 20839 194581 1 1 20877 194582 1 1 132427 194583 1 1 20887 194584
    1 1 20900 194585 1 1 20172 194586 1 1 20908 194587 1 1 20917 194588 1 1 168415 194589 1 1
    20981 194590 1 1 20995 194591 1 1 13535 194592 1 1 21051 194593 1 1 21062 194594 1 1 21106
    194595 1 1 21111 194596 1 1 13589 194597 1 1 21191 194598 1 1 21193 194599 1 1 21220 194600
    1 1 21242 194601 2 1 21253 194603 1 1 21271 194604 1 1 21321 194605 1 1 21329 194606 1 1
    21338 194607 1 1 21363 194608 2 2 21373 194609 1 1 21375 194611 1 1 21375 194612 1 1 133676
    194613 1 1 28784 194614 1 1 21450 194615 1 1 21471 194616 1 1 133987 194617 1 1 21483 194618
    1 1 21489 194619 1 1 21510 194620 1 1 21662 194621 1 1 21560 194622 1 1 21576 194623 1 1
    21608 194624 1 1 21666 194625 1 1 21750 194626 1 1 21776 194627 1 1 21843 194628 1 1 21859
    194629 1 1 21892 194630 1 1 21892 194631 1 1 21913 194632 1 1 21931 194633 1 1 21939 194634
    1 1 21954 194635 1 1 22294 194636 1 1 22022 194637 1 1 22295 194638 1 1 22097 194639 1 1
    22132 194640 1 1 20999 194641 1 1 22766 194642 1 1 22478 194643 1 1 22516 194644 1 1 22541
    194645 1 1 22411 194646 1 1 22578 194647 1 1 22577 194648 1 1 22700 194649 1 1 136420 194650
    1 1 22770 194651 1 1 22775 194652 1 1 22790 194653 1 1 22810 194654 1 1 22818 194655 1 1
    22882 194656 1 1 136872 194657 1 1 136938 194658 1 1 23020 194659 1 1 23067 194660 1 1 23079
    194661 1 1 23000 194662 1 1 23142 194663 1 1 14062 194664 1 1 14076 194665 1 1 23304 194666
    1 1 23358 194667 1 1 23358 194668 1 1 137672 194669 1 1 23491 194670 1 1 23512 194671 1 1
    23527 194672 1 1 23539 194673 1 1 138008 194674 1 1 23551 194675 1 1 23558 194676 1 1 24403
    194677 1 1 23586 194678 1 1 14209 194679 1 1 23648 194680 1 1 23662 194681 1 1 23744 194682
    1 1 23693 194683 2 2 138724 194684 1 1 23875 194686 1 1 23918 194687 1 1 23915 194688 1 1
    23932 194689 2 1 24033 194691 1 1 14383 194692 1 1 24061 194693 1 1 24104 194694 1 1 24125
    194695 1 1 24169 194696 1 1 14434 194697 1 1 139651 194698 1 1 14460 194699 1 1 24240 194700
    1 1 24243 194701 1 1 24246 194702 1 1 24266 194703 1 1 172946 194704 1 1 24318 194705 1 1
    140081 194706 1 1 140081 194707 1 1 33281 194708 1 1 24354 194709 1 1 24354 194710 1 1 14535
    194711 1 1 144056 194712 1 1 156122 194713 1 1 24418 194714 1 1 24427 194715 1 1 14563
    194716 1 1 24474 194717 1 1 24525 194718 1 1 24535 194719 1 1 24569 194720 1 1 24705 194721
    1 1 14650 194722 1 1 14620 194723 1 1 24724 194724 1 1 141012 194725 1 1 24775 194726 1 1
    24904 194727 1 1 24908 194728 1 1 24910 194729 1 1 24908 194730 1 1 24954 194731 1 1 24974
    194732 1 1 25010 194733 1 1 24996 194734 1 1 25007 194735 1 1 25054 194736 1 1 25074 194737
    1 1 25078 194738 1 1 25104 194739 1 1 25115 194740 1 1 25181 194741 1 1 25265 194742 1 1
    25300 194743 1 1 25424 194744 1 1 142092 194745 1 1 25405 194746 1 1 25340 194747 1 1 25448
    194748 1 1 25475 194749 1 1 25572 194750 1 1 142321 194751 1 1 25634 194752 1 1 25541 194753
    1 1 25513 194754 1 1 14894 194755 1 1 25705 194756 1 1 25726 194757 1 1 25757 194758 1 1
    25719 194759 1 1 14956 194760 1 1 25935 194761 1 1 25964 194762 1 1 143370 194763 1 1 26083
    194764 1 1 26360 194765 1 1 26185 194766 1 1 15129 194767 1 1 26257 194768 1 1 15112 194769
    1 1 15076 194770 1 1 20882 194771 1 1 20885 194772 1 1 26368 194773 1 1 26268 194774 1 1
    32941 194775 1 1 17369 194776 1 1 26391 194777 1 1 26395 194778 1 1 26401 194779 1 1 26462
    194780 1 1 26451 194781 1 1 144323 194782 1 1 15177 194783 1 1 26618 194784 1 1 26501 194785
    1 1 26706 194786 1 1 26757 194787 1 1 144493 194788 1 1 26766 194789 1 1 26655 194790 1 1
    26900 194791 1 1 15261 194792 1 1 26946 194793 1 1 27043 194794 1 1 27114 194795 1 1 27304
    194796 1 1 145059 194797 1 1 27355 194798 1 1 15384 194799 1 1 27425 194800 1 1 145575
    194801 1 1 27476 194802 1 1 15438 194803 1 1 27506 194804 1 1 27551 194805 2 1 27578 194807
    1 1 146061 194808 1 1 138507 194809 1 1 146170 194810 1 1 27726 194811 1 1 146620 194812 1 1
    27839 194813 1 1 27853 194814 1 1 27751 194815 1 1 27926 194816 1 1 27966 194817 1 1 28023
    194818 1 1 27969 194819 1 1 28009 194820 1 1 28024 194821 1 1 28037 194822 1 1 146718 194823
    1 1 27956 194824 1 1 28207 194825 1 1 28270 194826 1 1 15667 194827 1 1 28363 194828 1 1
    28359 194829 1 1 147153 194830 1 1 28153 194831 1 1 28526 194832 1 1 147294 194833 1 1
    147342 194834 1 1 28614 194835 1 1 28729 194836 1 1 28702 194837 1 1 28699 194838 1 1 15766
    194839 1 1 28746 194840 1 1 28797 194841 1 1 28791 194842 1 1 28845 194843 1 1 132389 194844
    1 1 28997 194845 1 1 148067 194846 1 1 29084 194847 1 1 148395 194848 1 1 29224 194849 1 1
    29237 194850 1 1 29264 194851 1 1 149000 194852 1 1 29312 194853 1 1 29333 194854 1 1 149301
    194855 1 1 149524 194856 1 1 29562 194857 1 1 29579 194858 1 1 16044 194859 1 1 29605 194860
    1 1 16056 194861 1 1 16056 194862 1 1 29767 194863 1 1 29788 194864 1 1 29809 194865 1 1
    29829 194866 1 1 29898 194867 1 1 16155 194868 1 1 29988 194869 1 1 150582 194870 1 1 30014
    194871 1 1 150674 194872 1 1 30064 194873 1 1 139679 194874 1 1 30224 194875 1 1 151457
    194876 1 1 151480 194877 1 1 151620 194878 1 1 16380 194879 1 1 16392 194880 1 1 30452
    194881 1 1 151795 194882 1 1 151794 194883 1 1 151833 194884 1 1 151859 194885 2 1 30494
    194887 1 1 30495 194888 1 1 30538 194889 1 1 16441 194890 1 1 30603 194891 1 1 16454 194892
    1 1 16534 194893 1 1 152605 194894 1 1 30798 194895 1 1 30860 194896 1 1 30924 194897 1 1
    16611 194898 1 1 153126 194899 1 1 31062 194900 1 1 153242 194901 1 1 153285 194902 1 1
    31119 194903 1 1 31211 194904 1 1 16687 194905 1 1 31296 194906 1 1 31306 194907 1 1 31311
    194908 1 1 153980 194909 1 1 154279 194910 1 1 154279 194911 1 1 31470 194912 1 1 16898
    194913 1 1 154539 194914 1 1 31686 194915 1 1 31689 194916 1 1 16935 194917 1 1 154752
    194918 1 1 31954 194919 1 1 17056 194920 1 1 31976 194921 1 1 31971 194922 1 1 32000 194923
    1 1 155526 194924 1 1 32099 194925 1 1 17153 194926 1 1 32199 194927 1 1 32258 194928 1 1
    32325 194929 1 1 17204 194930 1 1 156200 194931 1 1 156231 194932 1 1 17241 194933 1 1
    156377 194934 1 1 32634 194935 1 1 156478 194936 1 1 32661 194937 1 1 32762 194938 1 1 32773
    194939 1 1 156890 194940 1 1 156963 194941 1 1 32864 194942 1 1 157096 194943 1 1 32880
    194944 1 1 144223 194945 1 1 17365 194946 1 1 32946 194947 1 1 33027 194948 1 1 17419 194949
    1 1 33086 194950 1 1 23221 194951 1 1 157607 194952 1 1 157621 194953 1 1 144275 194954 1 1
    144284 194955 1 1 33281 194956 1 1 33284 194957 1 1 36766 194958 1 1 17515 194959 1 1 33425
    194960 1 1 33419 194961 1 1 33437 194962 1 1 21171 194963 1 1 33457 194964 1 1 33459 194965
    1 1 33469 194966 1 1 33510 194967 1 1 158524 194968 1 1 33509 194969 1 1 33565 194970 1 1
    33635 194971 1 1 33709 194972 1 1 33571 194973 1 1 33725 194974 1 1 33767 194975 1 1 33879
    194976 1 1 33619 194977 1 1 33738 194978 1 1 33740 194979 1 1 33756 194980 1 1 158774 194981
    1 1 159083 194982 1 1 158933 194983 1 1 17707 194984 1 1 34033 194985 1 1 34035 194986 1 1
    34070 194987 1 1 160714 194988 1 1 34148 194989 1 1 159532 194990 1 1 17757 194991 1 1 17761
    194992 1 1 159665 194993 1 1 159954 194994 1 1 17771 194995 1 1 34384 194996 1 1 34396
    194997 1 1 34407 194998 1 1 34409 194999 1 1 34473 195000 1 1 34440 195001 1 1 34574 195002
    1 1 34530 195003 1 1 34681 195004 1 1 34600 195005 1 1 34667 195006 1 1 34694 195007 1 1
    17879 195008 1 1 34785 195009 1 1 34817 195010 1 1 17913 195011 1 1 34912 195012 1 1 34915
    195013 1 1 161383 195014 1 1 35031 195015 1 1 35038 195016 1 1 17973 195017 1 1 35066 195018
    1 1 13499 195019 1 1 161966 195020 1 1 162150 195021 1 1 18110 195022 1 1 18119 195023 1 1
    35488 195024 1 1 35565 195025 1 1 35722 195026 1 1 35925 195027 1 1 162984 195028 1 1 36011
    195029 1 1 36033 195030 1 1 36123 195031 1 1 36215 195032 1 1 163631 195033 1 1 133124
    195034 1 1 36299 195035 1 1 36284 195036 1 1 36336 195037 1 1 133342 195038 1 1 36564 195039
    1 1 36664 195040 1 1 165330 195041 1 1 165357 195042 1 1 37012 195043 1 1 37105 195044 1 1
    37137 195045 1 1 165678 195046 1 1 37147 195047 1 1 37432 195048 2 1 37591 195050 1 1 37500
    195051 1 1 37881 195052 1 1 37909 195053 1 1 166906 195054 1 1 38283 195055 1 1 18837 195056
    1 1 38327 195057 1 1 167287 195058 1 1 18918 195059 1 1 38595 195060 1 1 23986 195061 1 1
    38691 195062 1 1 168261 195063 1 1 168474 195064 1 1 19054 195065 1 1 19062 195066 1 1 38880
    195067 1 1 168970 195068 1 1 19122 195069 1 1 169110 195070 1 1 38923 195071 1 1 38923
    195072 1 1 38953 195073 1 1 169398 195074 1 1 39138 195075 1 1 19251 195076 1 1 39209 195077
    1 1 39335 195078 1 1 39362 195079 1 1 39422 195080 1 1 19406 195081 1 1 170800 195082 1 1
    39698 195083 1 1 40000 195084 1 1 40189 195085 1 1 19662 195086 1 1 19693 195087 1 1 40295
    195088 1 1 172238 195089 1 1 19704 195090 1 1 172293 195091 1 1 172558 195092 1 1 172689
    195093 1 1 40635 195094 1 1 19798 195095 1 1 40697 195096 1 1 40702 195097 1 1 40709 195098
    1 1 40719 195099 1 1 40726 195100 1 1 40763 195101 1 1 173568"

/-- Code points, each followed by the number of code points that replace it and by these. -/
def replacements : List Nat := numbers
  "168 2 32 776 175 2 32 772 180 2 32 769 184 2 32 807 188 3 49 8260 52 189 3 49 8260 50 190 3
    51 8260 52 304 2 105 775 306 2 105 106 307 2 105 106 319 2 108 183 320 2 108 183 329 2 700
    110 452 2 100 382 453 2 100 382 454 2 100 382 455 2 108 106 456 2 108 106 457 2 108 106 458
    2 110 106 459 2 110 106 460 2 110 106 497 2 100 122 498 2 100 122 499 2 100 122 728 2 32 774
    729 2 32 775 730 2 32 778 731 2 32 808 732 2 32 771 733 2 32 779 836 2 776 769 890 2 32 953
    900 2 32 769 901 3 32 776 769 1415 2 1381 1410 1653 2 1575 1652 1654 2 1608 1652 1655 2 1735
    1652 1656 2 1610 1652 2392 2 2325 2364 2393 2 2326 2364 2394 2 2327 2364 2395 2 2332 2364
    2396 2 2337 2364 2397 2 2338 2364 2398 2 2347 2364 2399 2 2351 2364 2524 2 2465 2492 2525 2
    2466 2492 2527 2 2479 2492 2611 2 2610 2620 2614 2 2616 2620 2649 2 2582 2620 2650 2 2583
    2620 2651 2 2588 2620 2654 2 2603 2620 2908 2 2849 2876 2909 2 2850 2876 3635 2 3661 3634
    3763 2 3789 3762 3804 2 3755 3737 3805 2 3755 3745 3907 2 3906 4023 3917 2 3916 4023 3922 2
    3921 4023 3927 2 3926 4023 3932 2 3931 4023 3945 2 3904 4021 3955 2 3953 3954 3957 2 3953
    3956 3958 2 4018 3968 3959 3 4018 3953 3968 3960 2 4019 3968 3961 3 4019 3953 3968 3969 2
    3953 3968 3987 2 3986 4023 3997 2 3996 4023 4002 2 4001 4023 4007 2 4006 4023 4012 2 4011
    4023 4025 2 3984 4021 7834 2 97 702 8064 2 7936 953 8065 2 7937 953 8066 2 7938 953 8067 2
    7939 953 8068 2 7940 953 8069 2 7941 953 8070 2 7942 953 8071 2 7943 953 8072 2 7936 953
    8073 2 7937 953 8074 2 7938 953 8075 2 7939 953 8076 2 7940 953 8077 2 7941 953 8078 2 7942
    953 8079 2 7943 953 8080 2 7968 953 8081 2 7969 953 8082 2 7970 953 8083 2 7971 953 8084 2
    7972 953 8085 2 7973 953 8086 2 7974 953 8087 2 7975 953 8088 2 7968 953 8089 2 7969 953
    8090 2 7970 953 8091 2 7971 953 8092 2 7972 953 8093 2 7973 953 8094 2 7974 953 8095 2 7975
    953 8096 2 8032 953 8097 2 8033 953 8098 2 8034 953 8099 2 8035 953 8100 2 8036 953 8101 2
    8037 953 8102 2 8038 953 8103 2 8039 953 8104 2 8032 953 8105 2 8033 953 8106 2 8034 953
    8107 2 8035 953 8108 2 8036 953 8109 2 8037 953 8110 2 8038 953 8111 2 8039 953 8114 2 8048
    953 8115 2 945 953 8116 2 940 953 8119 2 8118 953 8124 2 945 953 8125 2 32 787 8127 2 32 787
    8128 2 32 834 8129 3 32 776 834 8130 2 8052 953 8131 2 951 953 8132 2 942 953 8135 2 8134
    953 8140 2 951 953 8141 3 32 787 768 8142 3 32 787 769 8143 3 32 787 834 8157 3 32 788 768
    8158 3 32 788 769 8159 3 32 788 834 8173 3 32 776 768 8174 3 32 776 769 8178 2 8060 953 8179
    2 969 953 8180 2 974 953 8183 2 8182 953 8188 2 969 953 8189 2 32 769 8190 2 32 788 8215 2
    32 819 8243 2 8242 8242 8244 3 8242 8242 8242 8246 2 8245 8245 8247 3 8245 8245 8245 8252 2
    33 33 8254 2 32 773 8263 2 63 63 8264 2 63 33 8265 2 33 63 8279 4 8242 8242 8242 8242 8360 2
    114 115 8448 3 97 47 99 8449 3 97 47 115 8451 2 176 99 8453 3 99 47 111 8454 3 99 47 117
    8457 2 176 102 8470 2 110 111 8480 2 115 109 8481 3 116 101 108 8482 2 116 109 8507 3 102 97
    120 8528 3 49 8260 55 8529 3 49 8260 57 8530 4 49 8260 49 48 8531 3 49 8260 51 8532 3 50
    8260 51 8533 3 49 8260 53 8534 3 50 8260 53 8535 3 51 8260 53 8536 3 52 8260 53 8537 3 49
    8260 54 8538 3 53 8260 54 8539 3 49 8260 56 8540 3 51 8260 56 8541 3 53 8260 56 8542 3 55
    8260 56 8543 2 49 8260 8545 2 105 105 8546 3 105 105 105 8547 2 105 118 8549 2 118 105 8550
    3 118 105 105 8551 4 118 105 105 105 8552 2 105 120 8554 2 120 105 8555 3 120 105 105 8561 2
    105 105 8562 3 105 105 105 8563 2 105 118 8565 2 118 105 8566 3 118 105 105 8567 4 118 105
    105 105 8568 2 105 120 8570 2 120 105 8571 3 120 105 105 8585 3 48 8260 51 8748 2 8747 8747
    8749 3 8747 8747 8747 8751 2 8750 8750 8752 3 8750 8750 8750 9321 2 49 48 9322 2 49 49 9323
    2 49 50 9324 2 49 51 9325 2 49 52 9326 2 49 53 9327 2 49 54 9328 2 49 55 9329 2 49 56 9330 2
    49 57 9331 2 50 48 9332 3 40 49 41 9333 3 40 50 41 9334 3 40 51 41 9335 3 40 52 41 9336 3 40
    53 41 9337 3 40 54 41 9338 3 40 55 41 9339 3 40 56 41 9340 3 40 57 41 9341 4 40 49 48 41
    9342 4 40 49 49 41 9343 4 40 49 50 41 9344 4 40 49 51 41 9345 4 40 49 52 41 9346 4 40 49 53
    41 9347 4 40 49 54 41 9348 4 40 49 55 41 9349 4 40 49 56 41 9350 4 40 49 57 41 9351 4 40 50
    48 41 9372 3 40 97 41 9373 3 40 98 41 9374 3 40 99 41 9375 3 40 100 41 9376 3 40 101 41 9377
    3 40 102 41 9378 3 40 103 41 9379 3 40 104 41 9380 3 40 105 41 9381 3 40 106 41 9382 3 40
    107 41 9383 3 40 108 41 9384 3 40 109 41 9385 3 40 110 41 9386 3 40 111 41 9387 3 40 112 41
    9388 3 40 113 41 9389 3 40 114 41 9390 3 40 115 41 9391 3 40 116 41 9392 3 40 117 41 9393 3
    40 118 41 9394 3 40 119 41 9395 3 40 120 41 9396 3 40 121 41 9397 3 40 122 41 10764 4 8747
    8747 8747 8747 10868 3 58 58 61 10869 2 61 61 10870 3 61 61 61 10972 2 10973 824 12443 2 32
    12441 12444 2 32 12442 12447 2 12424 12426 12543 2 12467 12488 12800 3 40 4352 41 12801 3 40
    4354 41 12802 3 40 4355 41 12803 3 40 4357 41 12804 3 40 4358 41 12805 3 40 4359 41 12806 3
    40 4361 41 12807 3 40 4363 41 12808 3 40 4364 41 12809 3 40 4366 41 12810 3 40 4367 41 12811
    3 40 4368 41 12812 3 40 4369 41 12813 3 40 4370 41 12814 3 40 44032 41 12815 3 40 45208 41
    12816 3 40 45796 41 12817 3 40 46972 41 12818 3 40 47560 41 12819 3 40 48148 41 12820 3 40
    49324 41 12821 3 40 50500 41 12822 3 40 51088 41 12823 3 40 52264 41 12824 3 40 52852 41
    12825 3 40 53440 41 12826 3 40 54028 41 12827 3 40 54616 41 12828 3 40 51452 41 12829 4 40
    50724 51204 41 12830 4 40 50724 54980 41 12832 3 40 19968 41 12833 3 40 20108 41 12834 3 40
    19977 41 12835 3 40 22235 41 12836 3 40 20116 41 12837 3 40 20845 41 12838 3 40 19971 41
    12839 3 40 20843 41 12840 3 40 20061 41 12841 3 40 21313 41 12842 3 40 26376 41 12843 3 40
    28779 41 12844 3 40 27700 41 12845 3 40 26408 41 12846 3 40 37329 41 12847 3 40 22303 41
    12848 3 40 26085 41 12849 3 40 26666 41 12850 3 40 26377 41 12851 3 40 31038 41 12852 3 40
    21517 41 12853 3 40 29305 41 12854 3 40 36001 41 12855 3 40 31069 41 12856 3 40 21172 41
    12857 3 40 20195 41 12858 3 40 21628 41 12859 3 40 23398 41 12860 3 40 30435 41 12861 3 40
    20225 41 12862 3 40 36039 41 12863 3 40 21332 41 12864 3 40 31085 41 12865 3 40 20241 41
    12866 3 40 33258 41 12867 3 40 33267 41 12880 3 112 116 101 12881 2 50 49 12882 2 50 50
    12883 2 50 51 12884 2 50 52 12885 2 50 53 12886 2 50 54 12887 2 50 55 12888 2 50 56 12889 2
    50 57 12890 2 51 48 12891 2 51 49 12892 2 51 50 12893 2 51 51 12894 2 51 52 12895 2 51 53
    12924 2 52280 44256 12925 2 51452 51032 12977 2 51 54 12978 2 51 55 12979 2 51 56 12980 2 51
    57 12981 2 52 48 12982 2 52 49 12983 2 52 50 12984 2 52 51 12985 2 52 52 12986 2 52 53 12987
    2 52 54 12988 2 52 55 12989 2 52 56 12990 2 52 57 12991 2 53 48 12992 2 49 26376 12993 2 50
    26376 12994 2 51 26376 12995 2 52 26376 12996 2 53 26376 12997 2 54 26376 12998 2 55 26376
    12999 2 56 26376 13000 2 57 26376 13001 3 49 48 26376 13002 3 49 49 26376 13003 3 49 50
    26376 13004 2 104 103 13005 3 101 114 103 13006 2 101 118 13007 3 108 116 100 13055 2 20196
    21644 13056 4 12450 12497 12540 12488 13057 4 12450 12523 12501 12449 13058 4 12450 12531
    12506 12450 13059 3 12450 12540 12523 13060 4 12452 12491 12531 12464 13061 3 12452 12531
    12481 13062 3 12454 12457 12531 13063 5 12456 12473 12463 12540 12489 13064 4 12456 12540
    12459 12540 13065 3 12458 12531 12473 13066 3 12458 12540 12512 13067 3 12459 12452 12522
    13068 4 12459 12521 12483 12488 13069 4 12459 12525 12522 12540 13070 3 12460 12525 12531
    13071 3 12460 12531 12510 13072 2 12462 12460 13073 3 12462 12491 12540 13074 4 12461 12517
    12522 12540 13075 4 12462 12523 12480 12540 13076 2 12461 12525 13077 5 12461 12525 12464
    12521 12512 13078 6 12461 12525 12513 12540 12488 12523 13079 5 12461 12525 12527 12483
    12488 13080 3 12464 12521 12512 13081 5 12464 12521 12512 12488 12531 13082 5 12463 12523
    12476 12452 12525 13083 4 12463 12525 12540 12493 13084 3 12465 12540 12473 13085 3 12467
    12523 12490 13086 3 12467 12540 12509 13087 4 12469 12452 12463 12523 13088 5 12469 12531
    12481 12540 12512 13089 4 12471 12522 12531 12464 13090 3 12475 12531 12481 13091 3 12475
    12531 12488 13092 3 12480 12540 12473 13093 2 12487 12471 13094 2 12489 12523 13095 2 12488
    12531 13096 2 12490 12494 13097 3 12494 12483 12488 13098 3 12495 12452 12484 13099 5 12497
    12540 12475 12531 12488 13100 3 12497 12540 12484 13101 4 12496 12540 12524 12523 13102 5
    12500 12450 12473 12488 12523 13103 3 12500 12463 12523 13104 2 12500 12467 13105 2 12499
    12523 13106 5 12501 12449 12521 12483 12489 13107 4 12501 12451 12540 12488 13108 5 12502
    12483 12471 12455 12523 13109 3 12501 12521 12531 13110 5 12504 12463 12479 12540 12523
    13111 2 12506 12477 13112 3 12506 12491 12498 13113 3 12504 12523 12484 13114 3 12506 12531
    12473 13115 3 12506 12540 12472 13116 3 12505 12540 12479 13117 4 12509 12452 12531 12488
    13118 3 12508 12523 12488 13119 2 12507 12531 13120 3 12509 12531 12489 13121 3 12507 12540
    12523 13122 3 12507 12540 12531 13123 4 12510 12452 12463 12525 13124 3 12510 12452 12523
    13125 3 12510 12483 12495 13126 3 12510 12523 12463 13127 5 12510 12531 12471 12519 12531
    13128 4 12511 12463 12525 12531 13129 2 12511 12522 13130 5 12511 12522 12496 12540 12523
    13131 2 12513 12460 13132 4 12513 12460 12488 12531 13133 4 12513 12540 12488 12523 13134 3
    12516 12540 12489 13135 3 12516 12540 12523 13136 3 12518 12450 12531 13137 4 12522 12483
    12488 12523 13138 2 12522 12521 13139 3 12523 12500 12540 13140 4 12523 12540 12502 12523
    13141 2 12524 12512 13142 5 12524 12531 12488 12466 12531 13143 3 12527 12483 12488 13144 2
    48 28857 13145 2 49 28857 13146 2 50 28857 13147 2 51 28857 13148 2 52 28857 13149 2 53
    28857 13150 2 54 28857 13151 2 55 28857 13152 2 56 28857 13153 2 57 28857 13154 3 49 48
    28857 13155 3 49 49 28857 13156 3 49 50 28857 13157 3 49 51 28857 13158 3 49 52 28857 13159
    3 49 53 28857 13160 3 49 54 28857 13161 3 49 55 28857 13162 3 49 56 28857 13163 3 49 57
    28857 13164 3 50 48 28857 13165 3 50 49 28857 13166 3 50 50 28857 13167 3 50 51 28857 13168
    3 50 52 28857 13169 3 104 112 97 13170 2 100 97 13171 2 97 117 13172 3 98 97 114 13173 2 111
    118 13174 2 112 99 13175 2 100 109 13176 3 100 109 50 13177 3 100 109 51 13178 2 105 117
    13179 2 24179 25104 13180 2 26157 21644 13181 2 22823 27491 13182 2 26126 27835 13183 4
    26666 24335 20250 31038 13184 2 112 97 13185 2 110 97 13186 2 956 97 13187 2 109 97 13188 2
    107 97 13189 2 107 98 13190 2 109 98 13191 2 103 98 13192 3 99 97 108 13193 4 107 99 97 108
    13194 2 112 102 13195 2 110 102 13196 2 956 102 13197 2 956 103 13198 2 109 103 13199 2 107
    103 13200 2 104 122 13201 3 107 104 122 13202 3 109 104 122 13203 3 103 104 122 13204 3 116
    104 122 13205 2 956 108 13206 2 109 108 13207 2 100 108 13208 2 107 108 13209 2 102 109
    13210 2 110 109 13211 2 956 109 13212 2 109 109 13213 2 99 109 13214 2 107 109 13215 3 109
    109 50 13216 3 99 109 50 13217 2 109 50 13218 3 107 109 50 13219 3 109 109 51 13220 3 99 109
    51 13221 2 109 51 13222 3 107 109 51 13223 3 109 8725 115 13224 4 109 8725 115 50 13225 2
    112 97 13226 3 107 112 97 13227 3 109 112 97 13228 3 103 112 97 13229 3 114 97 100 13230 5
    114 97 100 8725 115 13231 6 114 97 100 8725 115 50 13232 2 112 115 13233 2 110 115 13234 2
    956 115 13235 2 109 115 13236 2 112 118 13237 2 110 118 13238 2 956 118 13239 2 109 118
    13240 2 107 118 13241 2 109 118 13242 2 112 119 13243 2 110 119 13244 2 956 119 13245 2 109
    119 13246 2 107 119 13247 2 109 119 13248 2 107 969 13249 2 109 969 13251 2 98 113 13252 2
    99 99 13253 2 99 100 13254 4 99 8725 107 103 13256 2 100 98 13257 2 103 121 13258 2 104 97
    13259 2 104 112 13260 2 105 110 13261 2 107 107 13262 2 107 109 13263 2 107 116 13264 2 108
    109 13265 2 108 110 13266 3 108 111 103 13267 2 108 120 13268 2 109 98 13269 3 109 105 108
    13270 3 109 111 108 13271 2 112 104 13273 3 112 112 109 13274 2 112 114 13275 2 115 114
    13276 2 115 118 13277 2 119 98 13278 3 118 8725 109 13279 3 97 8725 109 13280 2 49 26085
    13281 2 50 26085 13282 2 51 26085 13283 2 52 26085 13284 2 53 26085 13285 2 54 26085 13286 2
    55 26085 13287 2 56 26085 13288 2 57 26085 13289 3 49 48 26085 13290 3 49 49 26085 13291 3
    49 50 26085 13292 3 49 51 26085 13293 3 49 52 26085 13294 3 49 53 26085 13295 3 49 54 26085
    13296 3 49 55 26085 13297 3 49 56 26085 13298 3 49 57 26085 13299 3 50 48 26085 13300 3 50
    49 26085 13301 3 50 50 26085 13302 3 50 51 26085 13303 3 50 52 26085 13304 3 50 53 26085
    13305 3 50 54 26085 13306 3 50 55 26085 13307 3 50 56 26085 13308 3 50 57 26085 13309 3 51
    48 26085 13310 3 51 49 26085 13311 3 103 97 108 64256 2 102 102 64257 2 102 105 64258 2 102
    108 64259 3 102 102 105 64260 3 102 102 108 64261 2 115 116 64262 2 115 116 64275 2 1396
    1398 64276 2 1396 1381 64277 2 1396 1387 64278 2 1406 1398 64279 2 1396 1389 64285 2 1497
    1460 64287 2 1522 1463 64298 2 1513 1473 64299 2 1513 1474 64300 3 1513 1468 1473 64301 3
    1513 1468 1474 64302 2 1488 1463 64303 2 1488 1464 64304 2 1488 1468 64305 2 1489 1468 64306
    2 1490 1468 64307 2 1491 1468 64308 2 1492 1468 64309 2 1493 1468 64310 2 1494 1468 64312 2
    1496 1468 64313 2 1497 1468 64314 2 1498 1468 64315 2 1499 1468 64316 2 1500 1468 64318 2
    1502 1468 64320 2 1504 1468 64321 2 1505 1468 64323 2 1507 1468 64324 2 1508 1468 64326 2
    1510 1468 64327 2 1511 1468 64328 2 1512 1468 64329 2 1513 1468 64330 2 1514 1468 64331 2
    1493 1465 64332 2 1489 1471 64333 2 1499 1471 64334 2 1508 1471 64335 2 1488 1500 64477 2
    1735 1652 64490 2 1574 1575 64491 2 1574 1575 64492 2 1574 1749 64493 2 1574 1749 64494 2
    1574 1608 64495 2 1574 1608 64496 2 1574 1735 64497 2 1574 1735 64498 2 1574 1734 64499 2
    1574 1734 64500 2 1574 1736 64501 2 1574 1736 64502 2 1574 1744 64503 2 1574 1744 64504 2
    1574 1744 64505 2 1574 1609 64506 2 1574 1609 64507 2 1574 1609 64512 2 1574 1580 64513 2
    1574 1581 64514 2 1574 1605 64515 2 1574 1609 64516 2 1574 1610 64517 2 1576 1580 64518 2
    1576 1581 64519 2 1576 1582 64520 2 1576 1605 64521 2 1576 1609 64522 2 1576 1610 64523 2
    1578 1580 64524 2 1578 1581 64525 2 1578 1582 64526 2 1578 1605 64527 2 1578 1609 64528 2
    1578 1610 64529 2 1579 1580 64530 2 1579 1605 64531 2 1579 1609 64532 2 1579 1610 64533 2
    1580 1581 64534 2 1580 1605 64535 2 1581 1580 64536 2 1581 1605 64537 2 1582 1580 64538 2
    1582 1581 64539 2 1582 1605 64540 2 1587 1580 64541 2 1587 1581 64542 2 1587 1582 64543 2
    1587 1605 64544 2 1589 1581 64545 2 1589 1605 64546 2 1590 1580 64547 2 1590 1581 64548 2
    1590 1582 64549 2 1590 1605 64550 2 1591 1581 64551 2 1591 1605 64552 2 1592 1605 64553 2
    1593 1580 64554 2 1593 1605 64555 2 1594 1580 64556 2 1594 1605 64557 2 1601 1580 64558 2
    1601 1581 64559 2 1601 1582 64560 2 1601 1605 64561 2 1601 1609 64562 2 1601 1610 64563 2
    1602 1581 64564 2 1602 1605 64565 2 1602 1609 64566 2 1602 1610 64567 2 1603 1575 64568 2
    1603 1580 64569 2 1603 1581 64570 2 1603 1582 64571 2 1603 1604 64572 2 1603 1605 64573 2
    1603 1609 64574 2 1603 1610 64575 2 1604 1580 64576 2 1604 1581 64577 2 1604 1582 64578 2
    1604 1605 64579 2 1604 1609 64580 2 1604 1610 64581 2 1605 1580 64582 2 1605 1581 64583 2
    1605 1582 64584 2 1605 1605 64585 2 1605 1609 64586 2 1605 1610 64587 2 1606 1580 64588 2
    1606 1581 64589 2 1606 1582 64590 2 1606 1605 64591 2 1606 1609 64592 2 1606 1610 64593 2
    1607 1580 64594 2 1607 1605 64595 2 1607 1609 64596 2 1607 1610 64597 2 1610 1580 64598 2
    1610 1581 64599 2 1610 1582 64600 2 1610 1605 64601 2 1610 1609 64602 2 1610 1610 64603 2
    1584 1648 64604 2 1585 1648 64605 2 1609 1648 64606 3 32 1612 1617 64607 3 32 1613 1617
    64608 3 32 1614 1617 64609 3 32 1615 1617 64610 3 32 1616 1617 64611 3 32 1617 1648 64612 2
    1574 1585 64613 2 1574 1586 64614 2 1574 1605 64615 2 1574 1606 64616 2 1574 1609 64617 2
    1574 1610 64618 2 1576 1585 64619 2 1576 1586 64620 2 1576 1605 64621 2 1576 1606 64622 2
    1576 1609 64623 2 1576 1610 64624 2 1578 1585 64625 2 1578 1586 64626 2 1578 1605 64627 2
    1578 1606 64628 2 1578 1609 64629 2 1578 1610 64630 2 1579 1585 64631 2 1579 1586 64632 2
    1579 1605 64633 2 1579 1606 64634 2 1579 1609 64635 2 1579 1610 64636 2 1601 1609 64637 2
    1601 1610 64638 2 1602 1609 64639 2 1602 1610 64640 2 1603 1575 64641 2 1603 1604 64642 2
    1603 1605 64643 2 1603 1609 64644 2 1603 1610 64645 2 1604 1605 64646 2 1604 1609 64647 2
    1604 1610 64648 2 1605 1575 64649 2 1605 1605 64650 2 1606 1585 64651 2 1606 1586 64652 2
    1606 1605 64653 2 1606 1606 64654 2 1606 1609 64655 2 1606 1610 64656 2 1609 1648 64657 2
    1610 1585 64658 2 1610 1586 64659 2 1610 1605 64660 2 1610 1606 64661 2 1610 1609 64662 2
    1610 1610 64663 2 1574 1580 64664 2 1574 1581 64665 2 1574 1582 64666 2 1574 1605 64667 2
    1574 1607 64668 2 1576 1580 64669 2 1576 1581 64670 2 1576 1582 64671 2 1576 1605 64672 2
    1576 1607 64673 2 1578 1580 64674 2 1578 1581 64675 2 1578 1582 64676 2 1578 1605 64677 2
    1578 1607 64678 2 1579 1605 64679 2 1580 1581 64680 2 1580 1605 64681 2 1581 1580 64682 2
    1581 1605 64683 2 1582 1580 64684 2 1582 1605 64685 2 1587 1580 64686 2 1587 1581 64687 2
    1587 1582 64688 2 1587 1605 64689 2 1589 1581 64690 2 1589 1582 64691 2 1589 1605 64692 2
    1590 1580 64693 2 1590 1581 64694 2 1590 1582 64695 2 1590 1605 64696 2 1591 1581 64697 2
    1592 1605 64698 2 1593 1580 64699 2 1593 1605 64700 2 1594 1580 64701 2 1594 1605 64702 2
    1601 1580 64703 2 1601 1581 64704 2 1601 1582 64705 2 1601 1605 64706 2 1602 1581 64707 2
    1602 1605 64708 2 1603 1580 64709 2 1603 1581 64710 2 1603 1582 64711 2 1603 1604 64712 2
    1603 1605 64713 2 1604 1580 64714 2 1604 1581 64715 2 1604 1582 64716 2 1604 1605 64717 2
    1604 1607 64718 2 1605 1580 64719 2 1605 1581 64720 2 1605 1582 64721 2 1605 1605 64722 2
    1606 1580 64723 2 1606 1581 64724 2 1606 1582 64725 2 1606 1605 64726 2 1606 1607 64727 2
    1607 1580 64728 2 1607 1605 64729 2 1607 1648 64730 2 1610 1580 64731 2 1610 1581 64732 2
    1610 1582 64733 2 1610 1605 64734 2 1610 1607 64735 2 1574 1605 64736 2 1574 1607 64737 2
    1576 1605 64738 2 1576 1607 64739 2 1578 1605 64740 2 1578 1607 64741 2 1579 1605 64742 2
    1579 1607 64743 2 1587 1605 64744 2 1587 1607 64745 2 1588 1605 64746 2 1588 1607 64747 2
    1603 1604 64748 2 1603 1605 64749 2 1604 1605 64750 2 1606 1605 64751 2 1606 1607 64752 2
    1610 1605 64753 2 1610 1607 64754 3 1600 1614 1617 64755 3 1600 1615 1617 64756 3 1600 1616
    1617 64757 2 1591 1609 64758 2 1591 1610 64759 2 1593 1609 64760 2 1593 1610 64761 2 1594
    1609 64762 2 1594 1610 64763 2 1587 1609 64764 2 1587 1610 64765 2 1588 1609 64766 2 1588
    1610 64767 2 1581 1609 64768 2 1581 1610 64769 2 1580 1609 64770 2 1580 1610 64771 2 1582
    1609 64772 2 1582 1610 64773 2 1589 1609 64774 2 1589 1610 64775 2 1590 1609 64776 2 1590
    1610 64777 2 1588 1580 64778 2 1588 1581 64779 2 1588 1582 64780 2 1588 1605 64781 2 1588
    1585 64782 2 1587 1585 64783 2 1589 1585 64784 2 1590 1585 64785 2 1591 1609 64786 2 1591
    1610 64787 2 1593 1609 64788 2 1593 1610 64789 2 1594 1609 64790 2 1594 1610 64791 2 1587
    1609 64792 2 1587 1610 64793 2 1588 1609 64794 2 1588 1610 64795 2 1581 1609 64796 2 1581
    1610 64797 2 1580 1609 64798 2 1580 1610 64799 2 1582 1609 64800 2 1582 1610 64801 2 1589
    1609 64802 2 1589 1610 64803 2 1590 1609 64804 2 1590 1610 64805 2 1588 1580 64806 2 1588
    1581 64807 2 1588 1582 64808 2 1588 1605 64809 2 1588 1585 64810 2 1587 1585 64811 2 1589
    1585 64812 2 1590 1585 64813 2 1588 1580 64814 2 1588 1581 64815 2 1588 1582 64816 2 1588
    1605 64817 2 1587 1607 64818 2 1588 1607 64819 2 1591 1605 64820 2 1587 1580 64821 2 1587
    1581 64822 2 1587 1582 64823 2 1588 1580 64824 2 1588 1581 64825 2 1588 1582 64826 2 1591
    1605 64827 2 1592 1605 64828 2 1575 1611 64829 2 1575 1611 64848 3 1578 1580 1605 64849 3
    1578 1581 1580 64850 3 1578 1581 1580 64851 3 1578 1581 1605 64852 3 1578 1582 1605 64853 3
    1578 1605 1580 64854 3 1578 1605 1581 64855 3 1578 1605 1582 64856 3 1580 1605 1581 64857 3
    1580 1605 1581 64858 3 1581 1605 1610 64859 3 1581 1605 1609 64860 3 1587 1581 1580 64861 3
    1587 1580 1581 64862 3 1587 1580 1609 64863 3 1587 1605 1581 64864 3 1587 1605 1581 64865 3
    1587 1605 1580 64866 3 1587 1605 1605 64867 3 1587 1605 1605 64868 3 1589 1581 1581 64869 3
    1589 1581 1581 64870 3 1589 1605 1605 64871 3 1588 1581 1605 64872 3 1588 1581 1605 64873 3
    1588 1580 1610 64874 3 1588 1605 1582 64875 3 1588 1605 1582 64876 3 1588 1605 1605 64877 3
    1588 1605 1605 64878 3 1590 1581 1609 64879 3 1590 1582 1605 64880 3 1590 1582 1605 64881 3
    1591 1605 1581 64882 3 1591 1605 1581 64883 3 1591 1605 1605 64884 3 1591 1605 1610 64885 3
    1593 1580 1605 64886 3 1593 1605 1605 64887 3 1593 1605 1605 64888 3 1593 1605 1609 64889 3
    1594 1605 1605 64890 3 1594 1605 1610 64891 3 1594 1605 1609 64892 3 1601 1582 1605 64893 3
    1601 1582 1605 64894 3 1602 1605 1581 64895 3 1602 1605 1605 64896 3 1604 1581 1605 64897 3
    1604 1581 1610 64898 3 1604 1581 1609 64899 3 1604 1580 1580 64900 3 1604 1580 1580 64901 3
    1604 1582 1605 64902 3 1604 1582 1605 64903 3 1604 1605 1581 64904 3 1604 1605 1581 64905 3
    1605 1581 1580 64906 3 1605 1581 1605 64907 3 1605 1581 1610 64908 3 1605 1580 1581 64909 3
    1605 1580 1605 64910 3 1605 1582 1580 64911 3 1605 1582 1605 64914 3 1605 1580 1582 64915 3
    1607 1605 1580 64916 3 1607 1605 1605 64917 3 1606 1581 1605 64918 3 1606 1581 1609 64919 3
    1606 1580 1605 64920 3 1606 1580 1605 64921 3 1606 1580 1609 64922 3 1606 1605 1610 64923 3
    1606 1605 1609 64924 3 1610 1605 1605 64925 3 1610 1605 1605 64926 3 1576 1582 1610 64927 3
    1578 1580 1610 64928 3 1578 1580 1609 64929 3 1578 1582 1610 64930 3 1578 1582 1609 64931 3
    1578 1605 1610 64932 3 1578 1605 1609 64933 3 1580 1605 1610 64934 3 1580 1581 1609 64935 3
    1580 1605 1609 64936 3 1587 1582 1609 64937 3 1589 1581 1610 64938 3 1588 1581 1610 64939 3
    1590 1581 1610 64940 3 1604 1580 1610 64941 3 1604 1605 1610 64942 3 1610 1581 1610 64943 3
    1610 1580 1610 64944 3 1610 1605 1610 64945 3 1605 1605 1610 64946 3 1602 1605 1610 64947 3
    1606 1581 1610 64948 3 1602 1605 1581 64949 3 1604 1581 1605 64950 3 1593 1605 1610 64951 3
    1603 1605 1610 64952 3 1606 1580 1581 64953 3 1605 1582 1610 64954 3 1604 1580 1605 64955 3
    1603 1605 1605 64956 3 1604 1580 1605 64957 3 1606 1580 1581 64958 3 1580 1581 1610 64959 3
    1581 1580 1610 64960 3 1605 1580 1610 64961 3 1601 1605 1610 64962 3 1576 1581 1610 64963 3
    1603 1605 1605 64964 3 1593 1580 1605 64965 3 1589 1605 1605 64966 3 1587 1582 1610 64967 3
    1606 1580 1610 65008 3 1589 1604 1746 65009 3 1602 1604 1746 65010 4 1575 1604 1604 1607
    65011 4 1575 1603 1576 1585 65012 4 1605 1581 1605 1583 65013 4 1589 1604 1593 1605 65014 4
    1585 1587 1608 1604 65015 4 1593 1604 1610 1607 65016 4 1608 1587 1604 1605 65017 3 1589
    1604 1609 65018 18 1589 1604 1609 32 1575 1604 1604 1607 32 1593 1604 1610 1607 32 1608 1587
    1604 1605 65019 8 1580 1604 32 1580 1604 1575 1604 1607 65020 4 1585 1740 1575 1604 65097 2
    32 773 65098 2 32 773 65099 2 32 773 65100 2 32 773 65136 2 32 1611 65137 2 1600 1611 65138
    2 32 1612 65140 2 32 1613 65142 2 32 1614 65143 2 1600 1614 65144 2 32 1615 65145 2 1600
    1615 65146 2 32 1616 65147 2 1600 1616 65148 2 32 1617 65149 2 1600 1617 65150 2 32 1618
    65151 2 1600 1618 65269 2 1604 1570 65270 2 1604 1570 65271 2 1604 1571 65272 2 1604 1571
    65273 2 1604 1573 65274 2 1604 1573 65275 2 1604 1575 65276 2 1604 1575 65507 2 32 772
    119134 2 119127 119141 119135 2 119128 119141 119136 3 119128 119141 119150 119137 3 119128
    119141 119151 119138 3 119128 119141 119152 119139 3 119128 119141 119153 119140 3 119128
    119141 119154 119227 2 119225 119141 119228 2 119226 119141 119229 3 119225 119141 119150
    119230 3 119226 119141 119150 119231 3 119225 119141 119151 119232 3 119226 119141 119151
    127233 2 48 44 127234 2 49 44 127235 2 50 44 127236 2 51 44 127237 2 52 44 127238 2 53 44
    127239 2 54 44 127240 2 55 44 127241 2 56 44 127242 2 57 44 127248 3 40 97 41 127249 3 40 98
    41 127250 3 40 99 41 127251 3 40 100 41 127252 3 40 101 41 127253 3 40 102 41 127254 3 40
    103 41 127255 3 40 104 41 127256 3 40 105 41 127257 3 40 106 41 127258 3 40 107 41 127259 3
    40 108 41 127260 3 40 109 41 127261 3 40 110 41 127262 3 40 111 41 127263 3 40 112 41 127264
    3 40 113 41 127265 3 40 114 41 127266 3 40 115 41 127267 3 40 116 41 127268 3 40 117 41
    127269 3 40 118 41 127270 3 40 119 41 127271 3 40 120 41 127272 3 40 121 41 127273 3 40 122
    41 127274 3 12308 115 12309 127277 2 99 100 127278 2 119 122 127306 2 104 118 127307 2 109
    118 127308 2 115 100 127309 2 115 115 127310 3 112 112 118 127311 2 119 99 127338 2 109 99
    127339 2 109 100 127340 2 109 114 127376 2 100 106 127488 2 12411 12363 127489 2 12467 12467
    127552 3 12308 26412 12309 127553 3 12308 19977 12309 127554 3 12308 20108 12309 127555 3
    12308 23433 12309 127556 3 12308 28857 12309 127557 3 12308 25171 12309 127558 3 12308 30423
    12309 127559 3 12308 21213 12309 127560 3 12308 25943 12309"

/-- Finds what replaces a code point by several. The fuel is the length of the list. -/
def findReplacement (n : Nat) : Nat → List Nat → Option (List Nat)
  | fuel + 1, code :: count :: rest =>
    if code = n then some (rest.take count) else findReplacement n fuel (rest.drop count)
  | _, _ => none

/-- What becomes of a code point, if it is not refused. -/
def replace? (n : Nat) : Option (List Nat) :=
  if refused.contains n then none
  else if leftOut.contains n then some []
  else
    match replacedByOne.image? n with
    | some m => some [m]
    | none => some ((findReplacement n replacements.length replacements).getD [n])

/-- The code points that are written from right to left. -/
def rightToLeft : CodeSet := CodeSet.ofRuns
  "1424 1 45 1 1 1 2 1 2 1 1 56 8 1 2 1 1 1 13 48 34 3 1 101 15 2 7 2 10 23 1 30 27 91 11 58 9
    2 4 3 1 24 4 1 9 1 3 1 5 43 3 52 2 5 9 42 5957 1 56077 1 1 10 1 532 18 127 33 13 115 143
    2305 287 1 225 3 1 2 5 4 40 3 4 1 165 2 82 7 484 4 8 10 6 10 31 6 241 31 44 2 79 4 70 11 49
    4 122 55296 208 7 109 7 1445 2 270"

/-- Arabic digits. -/
def arabicNumber : CodeSet := CodeSet.ofRuns
  "1536 6 90 10 1 2 112 1 434 2 80 1 66637 10 6 10 278 31"

/-- European digits. -/
def europeanNumber : CodeSet := CodeSet.ofRuns
  "48 10 120 2 5 1 1590 10 6518 1 3 6 6 10 1022 20 55924 10 967 27 51700 10 2772 50 6400 11
    2789 10"

/-- The code points that are written from left to right. -/
def leftToRight : CodeSet := CodeSet.ofRuns
  "65 26 6 26 47 1 10 1 4 1 5 23 1 31 1 449 2 7 14 2 14 5 9 1 129 4 2 8 1 5 2 1 1 110 1 140 7
    256 1 2 886 55 1 1 1 4 8 4 1 3 7 10 2 29 1 58 1 4 4 8 1 20 2 14 2 7 1 2 1 2 2 57 1 4 2 4 2 2
    3 3 1 30 2 3 1 11 2 57 1 4 5 1 2 4 1 20 2 13 1 8 6 1 1 58 1 2 1 1 4 8 1 7 2 11 2 30 1 61 1
    12 1 37 8 5 1 3 1 55 1 1 3 5 3 1 4 7 2 11 2 20 7 2 1 58 1 15 2 20 2 28 2 57 2 4 4 8 1 20 2
    29 1 72 1 7 3 1 1 90 1 2 7 4 1 7 8 98 1 2 9 11 7 73 2 27 1 1 1 1 5 51 14 1 5 1 2 5 11 1 36 9
    1 102 4 1 6 1 2 2 2 25 2 4 3 16 4 13 1 2 2 6 1 15 1 703 3 48 10 102 1 639 1 26 2 117 3 29 2
    30 2 30 2 64 2 1 7 8 1 2 11 7 1 1 1 18 10 6 16 117 2 34 1 118 3 4 2 9 1 6 3 4 1 3 2 152 34
    23 2 2 1 58 1 1 7 1 1 1 1 2 8 6 10 2 1 48 31 49 4 48 1 1 5 1 1 5 1 40 9 12 2 32 4 2 2 1 3 56
    1 1 2 3 1 1 3 58 8 2 2 152 3 1 13 1 7 4 1 6 1 3 2 198 64 445 1 1 3 11 3 13 3 13 3 13 2 1 14
    1 98 3 11 1 15 17 81 15 2 1 4 1 2 10 1 1 3 5 6 1 1 1 1 1 1 4 1 11 2 4 5 5 4 2 16 41 3 4 422
    69 26 1 148 22 11 21 60 78 450 1 339 256 628 2 32 1 105 229 6 4 3 7 7 127 1 96 126 34 26 1
    89 12 214 26 21 3 25 9 4 2 1 5 2 5 3 89 4 3 1 90 1 196 38 9 1 45 2 49 16 28 3 50 15 12 4 167
    4 99 2 31 1 6592 64 22160 55 326 3 95 17 30 2 80 2 14 34 102 1 121 1 3 1 4 1 25 2 1 5 11 2
    58 4 76 2 26 18 13 1 38 8 25 11 46 3 48 1 2 4 2 2 39 1 67 6 2 2 2 2 12 1 8 1 47 1 51 1 1 3 2
    2 5 2 1 1 42 2 8 1 115 2 121 1 2 1 4 1 20271 765 6 51 1 19 1 4 4 144 1 32 26 6 26 11 122 7 1
    7 1 16 257 1 62 77 3 13 3 1 92 1 226 28 122 5 1157 2048 1 1 54 15 11 20 10 1 2 2 10 3 49 4 2
    2 7 1 61 3 36 5 1 8 62 1 12 2 52 9 10 4 2 1 95 3 2 1 1 2 6 1 2 1 157 1 3 8 21 2 57 2 3 1 37
    7 3 5 70 6 13 1 1 1 1 1 14 2 85 8 2 3 1 1 23 1 84 6 1 1 4 2 1 2 238 4 6 2 1 2 27 2 85 8 2 1
    1 2 31 13 62 1 1 1 2 6 1 1 101 3 2 4 1 5 259 9 1 2 256 2 1 1 4 1 144 4 2 2 4 1 32 6 2 2 40 6
    2 4 8 1 9 6 2 3 46 13 1 2 406 7 1 6 84 22 2 7 1 2 1 2 122 6 3 1 1 2 1 7 1 1 72 2 3 1 1 1 347
    2 11 2 52 5 5 1 1 1 23 1 122 29 5198 1 6 15 11464 12 3 3 2496 5 59 7 1048 1 63 4 79 1 1 1
    19640 2 1 4 3932 214 26 10 6 436 76 46 2 23 544 3 9 16 2 7 30 4 59 2 21 70 186 87 900 1 57 1
    57 1 57 1 57 1 10 50 512 55 4 50 8 1 14 1 22 5 1 15 1360 7 1 17 2 7 1 2 1 5 100 1 160 7 375
    1 61 4 15 1 492 4 254 2 528 2092 4 100 12 15 2 15 1 15 1 37 10 16 31 1 58 6 61 1 178 6 154
    984 4 17 3 13 3 119 4 95 6 12 4 1 15 12 4 56 8 10 6 40 8 30 2 12 4 2 62 340 12 14 2 13 3 10
    5 56 7 15 2 11 6 9 7 147 1 102 1028 2 65534 2 65534 2 65534 2 65534 2 65534 2 65534 2 65534
    2 65534 2 65534 2 65534 2 65534 2 65534 4098 61438 2 65534 2 65534"

/-- Separators, terminators, neutral and invisible code points. -/
def neutral : CodeSet := CodeSet.ofRuns
  "0 9 5 14 5 15 10 7 26 6 26 10 1 36 1 7 2 1 1 3 2 5 23 1 31 1 449 2 7 14 2 14 5 9 1 17 116 2
    8 1 5 2 1 1 110 1 403 1 2 3 118 2 1 2 1 1 1 2 90 1 115 1 10 1 268 4 504 2 7 1 245 1 257 8
    125 7 448 1 250 4 1106 10 102 1 666 2 318 1 20 10 6 11 3 1 305 1 3 2 152 34 1469 1 1 3 11 3
    13 3 13 3 13 2 12 3 2 24 7 48 1 6 4 6 10 5 11 5 17 48 48 2 1 4 1 2 10 1 1 3 5 6 1 1 1 1 1 1
    4 1 11 2 4 5 5 4 2 16 41 3 4 422 69 26 1 148 22 11 21 40 98 450 1 339 256 628 2 32 1 105 229
    6 14 7 256 94 34 26 1 89 12 214 26 16 1 4 3 25 15 1 5 2 5 3 91 2 3 1 90 1 196 38 9 1 45 2 49
    16 28 3 50 15 12 4 167 4 99 2 31 1 6592 64 22160 55 326 3 99 1 10 2 128 34 102 1 159 4 12 2
    58 4 754 2 20413 1 532 18 127 33 13 3 16 10 22 35 1 19 1 4 147 1 1 15 10 7 26 6 26 11 122 7
    1 7 1 16 257 1 62 77 3 13 3 1 1918 1 537 7 558 1 739 20 1530 13 2408 29 20464 1 19645 4 3932
    214 42 436 703 8 110 2 21 66 3 1 186 87 900 1 57 1 57 1 57 1 57 1 2875 1 3056 2 270 44 4 100
    12 15 2 15 1 15 1 37 21 5 31 1 58 6 61 1 178 6 154 984 4 17 3 13 3 119 4 95 6 12 4 1 15 12 4
    56 8 10 6 40 8 30 2 12 4 2 62 340 12 14 2 13 3 10 5 56 7 15 2 11 6 9 7 147 1 92 1038 2 65534
    2 65534 2 65534 2 65534 2 65534 2 65534 2 65534 2 65534 2 65534 2 65534 2 65534 2 65534 258
    240 3600 61438 2 65534 2 65534 2"

/-- Marks that take the direction of what they mark. -/
def nonspacing : CodeSet := CodeSet.ofRuns
  "768 112 275 7 263 45 1 1 1 2 1 2 1 1 72 11 48 21 16 1 101 7 2 6 2 2 1 4 35 1 30 27 91 11 58
    9 9 1 24 4 1 9 1 3 1 5 43 3 59 9 42 24 1 32 55 1 1 1 4 8 4 1 3 7 10 2 29 1 58 1 4 4 8 1 20 2
    26 1 2 2 57 1 4 2 4 2 2 3 3 1 30 2 3 1 11 2 57 1 4 5 1 2 4 1 20 2 22 6 1 1 58 1 2 1 1 4 8 1
    7 2 11 2 30 1 61 1 12 1 50 1 3 1 55 1 1 3 5 3 1 4 7 2 11 2 29 1 58 1 15 2 20 2 28 2 57 2 4 4
    8 1 20 2 29 1 72 1 7 3 1 1 90 1 2 7 12 8 98 1 2 9 11 7 73 2 27 1 1 1 1 1 55 14 1 5 1 2 5 11
    1 36 9 1 102 4 1 6 1 2 2 2 25 2 4 3 16 4 13 1 2 2 6 1 15 1 703 3 946 3 29 2 30 2 30 2 64 2 1
    7 8 1 2 11 9 1 45 3 1 1 117 2 34 1 118 3 4 2 9 1 6 3 219 2 2 1 58 1 1 7 1 1 1 1 2 8 6 10 2 1
    48 31 49 4 48 1 1 5 1 1 5 1 40 9 12 2 32 4 2 2 1 3 56 1 1 2 3 1 1 3 58 8 2 2 152 3 1 13 1 7
    4 1 6 1 3 2 198 64 720 33 3070 3 141 1 96 32 554 4 107 2 30164 4 1 10 32 2 80 2 272 1 3 1 4
    1 25 2 5 1 151 2 26 18 13 1 38 8 25 11 46 3 48 1 2 4 2 2 39 1 67 6 2 2 2 2 12 1 8 1 47 1 51
    1 1 3 2 2 5 2 1 1 42 2 8 1 238 1 2 1 4 1 20272 1 737 16 16 16 973 1 226 1 149 5 1670 3 1 2 5
    4 40 3 4 1 165 2 573 4 65 5 317 2 79 4 70 11 49 4 123 1 54 15 41 1 2 2 10 3 49 4 2 2 7 1 61
    3 36 5 1 8 62 1 12 2 52 9 10 4 2 1 95 3 2 1 1 2 6 1 2 1 157 1 3 8 21 2 57 2 3 1 37 7 3 5 70
    6 13 1 1 1 1 1 14 2 85 8 2 3 1 1 23 1 84 6 1 1 4 2 1 2 238 4 6 2 1 2 27 2 85 8 2 1 1 2 106 1
    1 1 2 6 1 1 101 3 2 4 1 5 259 9 1 2 256 2 1 1 4 1 144 4 2 2 4 1 32 6 2 2 40 6 2 4 8 1 9 6 2
    3 46 13 1 2 406 7 1 6 84 22 2 7 1 2 1 2 122 6 3 1 1 2 1 7 1 1 72 2 3 1 1 1 347 2 11 2 52 5 5
    1 1 1 23 1 5349 1 6 15 11464 12 3 3 2496 5 59 7 1048 1 63 4 81 1 19640 2 4705 46 2 23 544 3
    17 8 2 7 30 4 148 3 1979 55 4 50 8 1 14 1 22 5 1 15 1360 7 1 17 2 7 1 2 1 5 100 1 160 7 375
    1 61 4 508 4 254 2 736 7 109 7 792501 240"

/-- Marks of all kinds. -/
def mark : CodeSet := CodeSet.ofRuns
  "768 112 275 7 263 45 1 1 1 2 1 2 1 1 72 11 48 21 16 1 101 7 2 6 2 2 1 4 35 1 30 27 91 11 58
    9 9 1 24 4 1 9 1 3 1 5 43 3 59 9 42 24 1 33 54 3 1 18 1 7 10 2 29 3 56 1 1 7 2 2 2 3 9 1 10
    2 26 1 2 3 56 1 1 5 4 2 2 3 3 1 30 2 3 1 11 3 56 1 1 8 1 3 1 3 20 2 22 6 1 3 56 1 1 7 2 2 2
    3 7 3 10 2 30 1 59 5 3 3 1 4 9 1 40 5 55 1 1 7 1 3 1 4 7 2 11 2 29 3 56 1 1 7 1 3 1 4 7 2 11
    2 15 1 12 4 55 2 1 7 1 3 1 4 9 1 10 2 29 3 70 1 4 6 1 1 1 8 18 2 61 1 2 7 12 8 98 1 2 9 11 7
    73 2 27 1 1 1 1 1 4 2 49 20 1 2 5 11 1 36 9 1 100 20 23 4 4 3 1 3 2 7 3 4 13 12 1 1 10 4 703
    3 946 4 28 3 29 2 30 2 64 32 9 1 45 3 1 1 117 2 34 1 118 12 4 12 219 5 57 10 1 29 2 1 48 31
    49 5 47 17 38 9 12 3 30 13 56 14 48 20 152 3 1 21 4 1 6 1 2 3 198 64 720 33 3070 3 141 1 96
    32 554 6 105 2 30164 4 1 10 32 2 80 2 272 1 3 1 4 1 23 5 4 1 83 2 50 18 26 18 13 1 38 8 25
    13 44 4 47 14 36 1 67 14 12 1 8 2 45 3 50 1 1 3 2 2 5 2 1 1 41 5 5 2 236 8 1 2 20272 1 737
    16 16 16 973 1 226 1 149 5 1670 3 1 2 5 4 40 3 4 1 165 2 573 4 65 5 317 2 79 4 70 11 49 4
    122 3 53 15 41 1 2 2 10 4 45 11 7 1 61 3 36 14 16 2 44 1 12 3 48 14 8 4 1 2 92 12 6 1 2 1
    157 12 21 4 55 2 1 7 2 2 2 3 9 1 10 2 2 7 3 5 67 9 1 1 2 1 1 4 1 5 1 1 14 2 82 18 23 1 81 20
    235 7 2 9 27 2 82 17 106 13 101 15 256 15 245 6 1 2 2 4 1 1 1 2 141 7 2 7 3 1 28 10 40 7 1 4
    8 1 9 11 46 16 405 8 1 8 82 22 1 14 122 6 3 1 1 2 1 7 1 1 66 5 1 2 1 5 347 4 9 2 1 1 48 7 3
    5 23 1 5349 1 6 15 11464 18 2496 5 59 7 1048 1 1 55 7 4 81 1 11 2 19627 2 4705 46 2 23 542 5
    3 6 8 8 2 7 30 4 148 3 1979 55 4 50 8 1 14 1 22 5 1 15 1360 7 1 17 2 7 1 2 1 5 100 1 160 7
    375 1 61 4 508 4 254 2 736 7 109 7 792501 240"

/-- Letters that join to the next one. -/
def joinsNext : CodeSet := CodeSet.ofRuns
  "1568 1 5 1 1 1 1 5 4 13 1 7 1 2 35 2 8 16 18 38 1 2 9 1 1 1 1 2 40 3 2 1 18 3 5 4 1 9 1 1 1
    1 1 2 31 11 3 15 2 4 1 1 2 3 2 6 74 33 86 5 2 1 1 10 1 1 10 1 1 4 2 1 29 1 2 5 18 10 5 2 2 6
    1 15 3902 1 24 89 14 34 1 1 36757 51 25165 5 8 1 5 10 1 3 10 4 145 1 1 1 3 3 1 2 1 1 2 1 28
    2 337 34 1 1 524 3 1 17 12 3 28 4 2 12 46 1 1 2 4 1 2 2 1 2 1 1 2 1 5 2 55604 68"

/-- Letters that join to the one before. -/
def joinsPrevious : CodeSet := CodeSet.ofRuns
  "1568 1 1 30 1 10 35 2 1 3 1 95 1 1 24 2 10 3 2 1 16 1 1 30 29 51 74 33 85 25 7 1 1 4 1 4 5
    19 3 1 2 6 17 13 1 27 3902 1 24 89 14 34 1 1 36757 50 25166 6 1 1 1 2 3 9 1 10 2 1 6 5 144
    18 23 6 338 35 524 21 12 4 27 18 46 1 1 5 1 8 1 4 4 2 55605 68"

/-- What joining looks through. -/
def joinTransparent : CodeSet := CodeSet.ofRuns
  "173 1 594 112 275 7 263 45 1 1 1 2 1 2 1 1 72 11 1 1 46 21 16 1 101 7 2 6 2 2 1 4 33 1 1 1
    30 27 91 11 58 9 9 1 24 4 1 9 1 3 1 5 43 3 59 9 42 24 1 32 55 1 1 1 4 8 4 1 3 7 10 2 29 1 58
    1 4 4 8 1 20 2 26 1 2 2 57 1 4 2 4 2 2 3 3 1 30 2 3 1 11 2 57 1 4 5 1 2 4 1 20 2 22 6 1 1 58
    1 2 1 1 4 8 1 7 2 11 2 30 1 61 1 12 1 50 1 3 1 55 1 1 3 5 3 1 4 7 2 11 2 29 1 58 1 2 1 6 1 5
    2 20 2 28 2 57 2 4 4 8 1 20 2 29 1 72 1 7 3 1 1 90 1 2 7 12 8 98 1 2 9 11 7 73 2 27 1 1 1 1
    1 55 14 1 5 1 2 5 11 1 36 9 1 102 4 1 6 1 2 2 2 25 2 4 3 16 4 13 1 2 2 6 1 15 1 703 3 946 3
    29 2 30 2 30 2 64 2 1 7 8 1 2 11 9 1 45 3 1 1 117 2 34 1 118 3 4 2 9 1 6 3 219 2 2 1 58 1 1
    7 1 1 1 1 2 8 6 10 2 1 48 31 49 4 48 1 1 5 1 1 5 1 40 9 12 2 32 4 2 2 1 3 56 1 1 2 3 1 1 3
    58 8 2 2 152 3 1 13 1 7 4 1 6 1 3 2 198 64 523 1 2 2 26 5 49 5 5 6 96 33 3070 3 141 1 96 32
    554 4 107 2 30164 4 1 10 32 2 80 2 272 1 3 1 4 1 25 2 5 1 151 2 26 18 13 1 38 8 25 11 46 3
    48 1 2 4 2 2 39 1 67 6 2 2 2 2 12 1 8 1 47 1 51 1 1 3 2 2 5 2 1 1 42 2 8 1 238 1 2 1 4 1
    20272 1 737 16 16 16 207 1 249 3 513 1 226 1 149 5 1670 3 1 2 5 4 40 3 4 1 165 2 573 4 65 5
    317 2 79 4 70 11 49 4 123 1 54 15 41 1 2 2 10 3 49 4 2 2 7 1 61 3 36 5 1 8 62 1 12 2 52 9 10
    4 2 1 95 3 2 1 1 2 6 1 2 1 157 1 3 8 21 2 57 2 3 1 37 7 3 5 70 6 13 1 1 1 1 1 14 2 85 8 2 3
    1 1 23 1 84 6 1 1 4 2 1 2 238 4 6 2 1 2 27 2 85 8 2 1 1 2 106 1 1 1 2 6 1 1 101 3 2 4 1 5
    259 9 1 2 256 2 1 1 4 1 144 4 2 2 4 1 32 10 40 6 2 4 8 1 9 6 2 3 46 13 1 2 406 7 1 6 1 1 82
    22 2 7 1 2 1 2 122 6 3 1 1 2 1 7 1 1 72 2 3 1 1 1 347 2 11 2 52 5 5 1 1 1 23 1 5333 17 6 15
    11464 12 3 3 2496 5 59 7 1048 1 63 4 81 1 19640 2 1 4 4700 46 2 23 544 3 9 16 2 7 30 4 148 3
    1979 55 4 50 8 1 14 1 22 5 1 15 1360 7 1 17 2 7 1 2 1 5 100 1 160 7 375 1 61 4 508 4 254 2
    736 7 109 8 792245 1 30 96 128 240"

/-- Marks that suppress a vowel. -/
def virama : CodeSet := CodeSet.ofRuns
  "2381 1 127 1 127 1 127 1 127 1 127 1 127 1 127 1 109 2 16 1 124 1 111 1 127 1 201 1 180 2
    1753 2 30 1 157 1 653 1 227 1 101 2 70 2 4491 1 31366 1 37 1 151 1 142 1 108 1 309 1 246 1
    24145 1 1542 1 41 1 14 1 57 1 121 2 139 1 116 1 180 1 98 1 128 3 113 1 127 1 252 1 127 1 118
    1 116 1 269 1 259 2 161 1 83 1 18 1 81 1 421 1 260 2 81 1 425 2 16876 1"

end Checkout.Domain

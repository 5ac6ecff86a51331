import Autotext.Text.Table

/-!
# Segmentation properties and ages

The values of the three segmentation properties of Unicode 16.0, grapheme cluster break,
word break and sentence break, as the sorted ranges of the code points with each value;
the value `Other` is left out, as it has no ranges of its own. Also the age of every code
point: the version of Unicode that assigned it, from 1.1 to 16.0.

- `graphemeBreakData`, `wordBreakData`, `sentenceBreakData`: loose aliases and ranges of
  each value.
- `ageData`: the versions in order, each with its loose aliases and the code points it
  assigned.
- `valueRanges?`: the ranges of a value by a loose name.
-/

namespace Autotext.Text

/-- The grapheme cluster break values: loose aliases and ranges `first,last`. -/
def graphemeBreakData : List (List String × String) := [
  (["cr"], "
d,d
"),
  (["control", "cn"], "
0,9;b,c;e,1f;7f,9f;ad,ad;61c,61c;180e,180e;200b,200b;200e,200f;2028,202e;2060,206f;feff,feff;fff
0,fffb;13430,1343f;1bca0,1bca3;1d173,1d17a;e0000,e001f;e0080,e00ff;e01f0,e0fff
"),
  (["extend", "ex"], "
300,36f;483,489;591,5bd;5bf,5bf;5c1,5c2;5c4,5c5;5c7,5c7;610,61a;64b,65f;670,670;6d6,6dc;6df,6e4;
6e7,6e8;6ea,6ed;711,711;730,74a;7a6,7b0;7eb,7f3;7fd,7fd;816,819;81b,823;825,827;829,82d;859,85b;
897,89f;8ca,8e1;8e3,902;93a,93a;93c,93c;941,948;94d,94d;951,957;962,963;981,981;9bc,9bc;9be,9be;
9c1,9c4;9cd,9cd;9d7,9d7;9e2,9e3;9fe,9fe;a01,a02;a3c,a3c;a41,a42;a47,a48;a4b,a4d;a51,a51;a70,a71;
a75,a75;a81,a82;abc,abc;ac1,ac5;ac7,ac8;acd,acd;ae2,ae3;afa,aff;b01,b01;b3c,b3c;b3e,b3f;b41,b44;
b4d,b4d;b55,b57;b62,b63;b82,b82;bbe,bbe;bc0,bc0;bcd,bcd;bd7,bd7;c00,c00;c04,c04;c3c,c3c;c3e,c40;
c46,c48;c4a,c4d;c55,c56;c62,c63;c81,c81;cbc,cbc;cbf,cc0;cc2,cc2;cc6,cc8;cca,ccd;cd5,cd6;ce2,ce3;
d00,d01;d3b,d3c;d3e,d3e;d41,d44;d4d,d4d;d57,d57;d62,d63;d81,d81;dca,dca;dcf,dcf;dd2,dd4;dd6,dd6;
ddf,ddf;e31,e31;e34,e3a;e47,e4e;eb1,eb1;eb4,ebc;ec8,ece;f18,f19;f35,f35;f37,f37;f39,f39;f71,f7e;
f80,f84;f86,f87;f8d,f97;f99,fbc;fc6,fc6;102d,1030;1032,1037;1039,103a;103d,103e;1058,1059;105e,1
060;1071,1074;1082,1082;1085,1086;108d,108d;109d,109d;135d,135f;1712,1715;1732,1734;1752,1753;17
72,1773;17b4,17b5;17b7,17bd;17c6,17c6;17c9,17d3;17dd,17dd;180b,180d;180f,180f;1885,1886;18a9,18a
9;1920,1922;1927,1928;1932,1932;1939,193b;1a17,1a18;1a1b,1a1b;1a56,1a56;1a58,1a5e;1a60,1a60;1a62
,1a62;1a65,1a6c;1a73,1a7c;1a7f,1a7f;1ab0,1ace;1b00,1b03;1b34,1b3d;1b42,1b44;1b6b,1b73;1b80,1b81;
1ba2,1ba5;1ba8,1bad;1be6,1be6;1be8,1be9;1bed,1bed;1bef,1bf3;1c2c,1c33;1c36,1c37;1cd0,1cd2;1cd4,1
ce0;1ce2,1ce8;1ced,1ced;1cf4,1cf4;1cf8,1cf9;1dc0,1dff;200c,200c;20d0,20f0;2cef,2cf1;2d7f,2d7f;2d
e0,2dff;302a,302f;3099,309a;a66f,a672;a674,a67d;a69e,a69f;a6f0,a6f1;a802,a802;a806,a806;a80b,a80
b;a825,a826;a82c,a82c;a8c4,a8c5;a8e0,a8f1;a8ff,a8ff;a926,a92d;a947,a951;a953,a953;a980,a982;a9b3
,a9b3;a9b6,a9b9;a9bc,a9bd;a9c0,a9c0;a9e5,a9e5;aa29,aa2e;aa31,aa32;aa35,aa36;aa43,aa43;aa4c,aa4c;
aa7c,aa7c;aab0,aab0;aab2,aab4;aab7,aab8;aabe,aabf;aac1,aac1;aaec,aaed;aaf6,aaf6;abe5,abe5;abe8,a
be8;abed,abed;fb1e,fb1e;fe00,fe0f;fe20,fe2f;ff9e,ff9f;101fd,101fd;102e0,102e0;10376,1037a;10a01,
10a03;10a05,10a06;10a0c,10a0f;10a38,10a3a;10a3f,10a3f;10ae5,10ae6;10d24,10d27;10d69,10d6d;10eab,
10eac;10efc,10eff;10f46,10f50;10f82,10f85;11001,11001;11038,11046;11070,11070;11073,11074;1107f,
11081;110b3,110b6;110b9,110ba;110c2,110c2;11100,11102;11127,1112b;1112d,11134;11173,11173;11180,
11181;111b6,111be;111c0,111c0;111c9,111cc;111cf,111cf;1122f,11231;11234,11237;1123e,1123e;11241,
11241;112df,112df;112e3,112ea;11300,11301;1133b,1133c;1133e,1133e;11340,11340;1134d,1134d;11357,
11357;11366,1136c;11370,11374;113b8,113b8;113bb,113c0;113c2,113c2;113c5,113c5;113c7,113c9;113ce,
113d0;113d2,113d2;113e1,113e2;11438,1143f;11442,11444;11446,11446;1145e,1145e;114b0,114b0;114b3,
114b8;114ba,114ba;114bd,114bd;114bf,114c0;114c2,114c3;115af,115af;115b2,115b5;115bc,115bd;115bf,
115c0;115dc,115dd;11633,1163a;1163d,1163d;1163f,11640;116ab,116ab;116ad,116ad;116b0,116b7;1171d,
1171f;11722,11725;11727,1172b;1182f,11837;11839,1183a;11930,11930;1193b,1193e;11943,11943;119d4,
119d7;119da,119db;119e0,119e0;11a01,11a0a;11a33,11a38;11a3b,11a3e;11a47,11a47;11a51,11a56;11a59,
11a5b;11a8a,11a96;11a98,11a99;11c30,11c36;11c38,11c3d;11c3f,11c3f;11c92,11ca7;11caa,11cb0;11cb2,
11cb3;11cb5,11cb6;11d31,11d36;11d3a,11d3a;11d3c,11d3d;11d3f,11d45;11d47,11d47;11d90,11d91;11d95,
11d95;11d97,11d97;11ef3,11ef4;11f00,11f01;11f36,11f3a;11f40,11f42;11f5a,11f5a;13440,13440;13447,
13455;1611e,16129;1612d,1612f;16af0,16af4;16b30,16b36;16f4f,16f4f;16f8f,16f92;16fe4,16fe4;16ff0,
16ff1;1bc9d,1bc9e;1cf00,1cf2d;1cf30,1cf46;1d165,1d169;1d16d,1d172;1d17b,1d182;1d185,1d18b;1d1aa,
1d1ad;1d242,1d244;1da00,1da36;1da3b,1da6c;1da75,1da75;1da84,1da84;1da9b,1da9f;1daa1,1daaf;1e000,
1e006;1e008,1e018;1e01b,1e021;1e023,1e024;1e026,1e02a;1e08f,1e08f;1e130,1e136;1e2ae,1e2ae;1e2ec,
1e2ef;1e4ec,1e4ef;1e5ee,1e5ef;1e8d0,1e8d6;1e944,1e94a;1f3fb,1f3ff;e0020,e007f;e0100,e01ef
"),
  (["l"], "
1100,115f;a960,a97c
"),
  (["lf"], "
a,a
"),
  (["lv"], "
ac00,ac00;ac1c,ac1c;ac38,ac38;ac54,ac54;ac70,ac70;ac8c,ac8c;aca8,aca8;acc4,acc4;ace0,ace0;acfc,a
cfc;ad18,ad18;ad34,ad34;ad50,ad50;ad6c,ad6c;ad88,ad88;ada4,ada4;adc0,adc0;addc,addc;adf8,adf8;ae
14,ae14;ae30,ae30;ae4c,ae4c;ae68,ae68;ae84,ae84;aea0,aea0;aebc,aebc;aed8,aed8;aef4,aef4;af10,af1
0;af2c,af2c;af48,af48;af64,af64;af80,af80;af9c,af9c;afb8,afb8;afd4,afd4;aff0,aff0;b00c,b00c;b028
,b028;b044,b044;b060,b060;b07c,b07c;b098,b098;b0b4,b0b4;b0d0,b0d0;b0ec,b0ec;b108,b108;b124,b124;
b140,b140;b15c,b15c;b178,b178;b194,b194;b1b0,b1b0;b1cc,b1cc;b1e8,b1e8;b204,b204;b220,b220;b23c,b
23c;b258,b258;b274,b274;b290,b290;b2ac,b2ac;b2c8,b2c8;b2e4,b2e4;b300,b300;b31c,b31c;b338,b338;b3
54,b354;b370,b370;b38c,b38c;b3a8,b3a8;b3c4,b3c4;b3e0,b3e0;b3fc,b3fc;b418,b418;b434,b434;b450,b45
0;b46c,b46c;b488,b488;b4a4,b4a4;b4c0,b4c0;b4dc,b4dc;b4f8,b4f8;b514,b514;b530,b530;b54c,b54c;b568
,b568;b584,b584;b5a0,b5a0;b5bc,b5bc;b5d8,b5d8;b5f4,b5f4;b610,b610;b62c,b62c;b648,b648;b664,b664;
b680,b680;b69c,b69c;b6b8,b6b8;b6d4,b6d4;b6f0,b6f0;b70c,b70c;b728,b728;b744,b744;b760,b760;b77c,b
77c;b798,b798;b7b4,b7b4;b7d0,b7d0;b7ec,b7ec;b808,b808;b824,b824;b840,b840;b85c,b85c;b878,b878;b8
94,b894;b8b0,b8b0;b8cc,b8cc;b8e8,b8e8;b904,b904;b920,b920;b93c,b93c;b958,b958;b974,b974;b990,b99
0;b9ac,b9ac;b9c8,b9c8;b9e4,b9e4;ba00,ba00;ba1c,ba1c;ba38,ba38;ba54,ba54;ba70,ba70;ba8c,ba8c;baa8
,baa8;bac4,bac4;bae0,bae0;bafc,bafc;bb18,bb18;bb34,bb34;bb50,bb50;bb6c,bb6c;bb88,bb88;bba4,bba4;
bbc0,bbc0;bbdc,bbdc;bbf8,bbf8;bc14,bc14;bc30,bc30;bc4c,bc4c;bc68,bc68;bc84,bc84;bca0,bca0;bcbc,b
cbc;bcd8,bcd8;bcf4,bcf4;bd10,bd10;bd2c,bd2c;bd48,bd48;bd64,bd64;bd80,bd80;bd9c,bd9c;bdb8,bdb8;bd
d4,bdd4;bdf0,bdf0;be0c,be0c;be28,be28;be44,be44;be60,be60;be7c,be7c;be98,be98;beb4,beb4;bed0,bed
0;beec,beec;bf08,bf08;bf24,bf24;bf40,bf40;bf5c,bf5c;bf78,bf78;bf94,bf94;bfb0,bfb0;bfcc,bfcc;bfe8
,bfe8;c004,c004;c020,c020;c03c,c03c;c058,c058;c074,c074;c090,c090;c0ac,c0ac;c0c8,c0c8;c0e4,c0e4;
c100,c100;c11c,c11c;c138,c138;c154,c154;c170,c170;c18c,c18c;c1a8,c1a8;c1c4,c1c4;c1e0,c1e0;c1fc,c
1fc;c218,c218;c234,c234;c250,c250;c26c,c26c;c288,c288;c2a4,c2a4;c2c0,c2c0;c2dc,c2dc;c2f8,c2f8;c3
14,c314;c330,c330;c34c,c34c;c368,c368;c384,c384;c3a0,c3a0;c3bc,c3bc;c3d8,c3d8;c3f4,c3f4;c410,c41
0;c42c,c42c;c448,c448;c464,c464;c480,c480;c49c,c49c;c4b8,c4b8;c4d4,c4d4;c4f0,c4f0;c50c,c50c;c528
,c528;c544,c544;c560,c560;c57c,c57c;c598,c598;c5b4,c5b4;c5d0,c5d0;c5ec,c5ec;c608,c608;c624,c624;
c640,c640;c65c,c65c;c678,c678;c694,c694;c6b0,c6b0;c6cc,c6cc;c6e8,c6e8;c704,c704;c720,c720;c73c,c
73c;c758,c758;c774,c774;c790,c790;c7ac,c7ac;c7c8,c7c8;c7e4,c7e4;c800,c800;c81c,c81c;c838,c838;c8
54,c854;c870,c870;c88c,c88c;c8a8,c8a8;c8c4,c8c4;c8e0,c8e0;c8fc,c8fc;c918,c918;c934,c934;c950,c95
0;c96c,c96c;c988,c988;c9a4,c9a4;c9c0,c9c0;c9dc,c9dc;c9f8,c9f8;ca14,ca14;ca30,ca30;ca4c,ca4c;ca68
,ca68;ca84,ca84;caa0,caa0;cabc,cabc;cad8,cad8;caf4,caf4;cb10,cb10;cb2c,cb2c;cb48,cb48;cb64,cb64;
cb80,cb80;cb9c,cb9c;cbb8,cbb8;cbd4,cbd4;cbf0,cbf0;cc0c,cc0c;cc28,cc28;cc44,cc44;cc60,cc60;cc7c,c
c7c;cc98,cc98;ccb4,ccb4;ccd0,ccd0;ccec,ccec;cd08,cd08;cd24,cd24;cd40,cd40;cd5c,cd5c;cd78,cd78;cd
94,cd94;cdb0,cdb0;cdcc,cdcc;cde8,cde8;ce04,ce04;ce20,ce20;ce3c,ce3c;ce58,ce58;ce74,ce74;ce90,ce9
0;ceac,ceac;cec8,cec8;cee4,cee4;cf00,cf00;cf1c,cf1c;cf38,cf38;cf54,cf54;cf70,cf70;cf8c,cf8c;cfa8
,cfa8;cfc4,cfc4;cfe0,cfe0;cffc,cffc;d018,d018;d034,d034;d050,d050;d06c,d06c;d088,d088;d0a4,d0a4;
d0c0,d0c0;d0dc,d0dc;d0f8,d0f8;d114,d114;d130,d130;d14c,d14c;d168,d168;d184,d184;d1a0,d1a0;d1bc,d
1bc;d1d8,d1d8;d1f4,d1f4;d210,d210;d22c,d22c;d248,d248;d264,d264;d280,d280;d29c,d29c;d2b8,d2b8;d2
d4,d2d4;d2f0,d2f0;d30c,d30c;d328,d328;d344,d344;d360,d360;d37c,d37c;d398,d398;d3b4,d3b4;d3d0,d3d
0;d3ec,d3ec;d408,d408;d424,d424;d440,d440;d45c,d45c;d478,d478;d494,d494;d4b0,d4b0;d4cc,d4cc;d4e8
,d4e8;d504,d504;d520,d520;d53c,d53c;d558,d558;d574,d574;d590,d590;d5ac,d5ac;d5c8,d5c8;d5e4,d5e4;
d600,d600;d61c,d61c;d638,d638;d654,d654;d670,d670;d68c,d68c;d6a8,d6a8;d6c4,d6c4;d6e0,d6e0;d6fc,d
6fc;d718,d718;d734,d734;d750,d750;d76c,d76c;d788,d788
"),
  (["lvt"], "
ac01,ac1b;ac1d,ac37;ac39,ac53;ac55,ac6f;ac71,ac8b;ac8d,aca7;aca9,acc3;acc5,acdf;ace1,acfb;acfd,a
d17;ad19,ad33;ad35,ad4f;ad51,ad6b;ad6d,ad87;ad89,ada3;ada5,adbf;adc1,addb;addd,adf7;adf9,ae13;ae
15,ae2f;ae31,ae4b;ae4d,ae67;ae69,ae83;ae85,ae9f;aea1,aebb;aebd,aed7;aed9,aef3;aef5,af0f;af11,af2
b;af2d,af47;af49,af63;af65,af7f;af81,af9b;af9d,afb7;afb9,afd3;afd5,afef;aff1,b00b;b00d,b027;b029
,b043;b045,b05f;b061,b07b;b07d,b097;b099,b0b3;b0b5,b0cf;b0d1,b0eb;b0ed,b107;b109,b123;b125,b13f;
b141,b15b;b15d,b177;b179,b193;b195,b1af;b1b1,b1cb;b1cd,b1e7;b1e9,b203;b205,b21f;b221,b23b;b23d,b
257;b259,b273;b275,b28f;b291,b2ab;b2ad,b2c7;b2c9,b2e3;b2e5,b2ff;b301,b31b;b31d,b337;b339,b353;b3
55,b36f;b371,b38b;b38d,b3a7;b3a9,b3c3;b3c5,b3df;b3e1,b3fb;b3fd,b417;b419,b433;b435,b44f;b451,b46
b;b46d,b487;b489,b4a3;b4a5,b4bf;b4c1,b4db;b4dd,b4f7;b4f9,b513;b515,b52f;b531,b54b;b54d,b567;b569
,b583;b585,b59f;b5a1,b5bb;b5bd,b5d7;b5d9,b5f3;b5f5,b60f;b611,b62b;b62d,b647;b649,b663;b665,b67f;
b681,b69b;b69d,b6b7;b6b9,b6d3;b6d5,b6ef;b6f1,b70b;b70d,b727;b729,b743;b745,b75f;b761,b77b;b77d,b
797;b799,b7b3;b7b5,b7cf;b7d1,b7eb;b7ed,b807;b809,b823;b825,b83f;b841,b85b;b85d,b877;b879,b893;b8
95,b8af;b8b1,b8cb;b8cd,b8e7;b8e9,b903;b905,b91f;b921,b93b;b93d,b957;b959,b973;b975,b98f;b991,b9a
b;b9ad,b9c7;b9c9,b9e3;b9e5,b9ff;ba01,ba1b;ba1d,ba37;ba39,ba53;ba55,ba6f;ba71,ba8b;ba8d,baa7;baa9
,bac3;bac5,badf;bae1,bafb;bafd,bb17;bb19,bb33;bb35,bb4f;bb51,bb6b;bb6d,bb87;bb89,bba3;bba5,bbbf;
bbc1,bbdb;bbdd,bbf7;bbf9,bc13;bc15,bc2f;bc31,bc4b;bc4d,bc67;bc69,bc83;bc85,bc9f;bca1,bcbb;bcbd,b
cd7;bcd9,bcf3;bcf5,bd0f;bd11,bd2b;bd2d,bd47;bd49,bd63;bd65,bd7f;bd81,bd9b;bd9d,bdb7;bdb9,bdd3;bd
d5,bdef;bdf1,be0b;be0d,be27;be29,be43;be45,be5f;be61,be7b;be7d,be97;be99,beb3;beb5,becf;bed1,bee
b;beed,bf07;bf09,bf23;bf25,bf3f;bf41,bf5b;bf5d,bf77;bf79,bf93;bf95,bfaf;bfb1,bfcb;bfcd,bfe7;bfe9
,c003;c005,c01f;c021,c03b;c03d,c057;c059,c073;c075,c08f;c091,c0ab;c0ad,c0c7;c0c9,c0e3;c0e5,c0ff;
c101,c11b;c11d,c137;c139,c153;c155,c16f;c171,c18b;c18d,c1a7;c1a9,c1c3;c1c5,c1df;c1e1,c1fb;c1fd,c
217;c219,c233;c235,c24f;c251,c26b;c26d,c287;c289,c2a3;c2a5,c2bf;c2c1,c2db;c2dd,c2f7;c2f9,c313;c3
15,c32f;c331,c34b;c34d,c367;c369,c383;c385,c39f;c3a1,c3bb;c3bd,c3d7;c3d9,c3f3;c3f5,c40f;c411,c42
b;c42d,c447;c449,c463;c465,c47f;c481,c49b;c49d,c4b7;c4b9,c4d3;c4d5,c4ef;c4f1,c50b;c50d,c527;c529
,c543;c545,c55f;c561,c57b;c57d,c597;c599,c5b3;c5b5,c5cf;c5d1,c5eb;c5ed,c607;c609,c623;c625,c63f;
c641,c65b;c65d,c677;c679,c693;c695,c6af;c6b1,c6cb;c6cd,c6e7;c6e9,c703;c705,c71f;c721,c73b;c73d,c
757;c759,c773;c775,c78f;c791,c7ab;c7ad,c7c7;c7c9,c7e3;c7e5,c7ff;c801,c81b;c81d,c837;c839,c853;c8
55,c86f;c871,c88b;c88d,c8a7;c8a9,c8c3;c8c5,c8df;c8e1,c8fb;c8fd,c917;c919,c933;c935,c94f;c951,c96
b;c96d,c987;c989,c9a3;c9a5,c9bf;c9c1,c9db;c9dd,c9f7;c9f9,ca13;ca15,ca2f;ca31,ca4b;ca4d,ca67;ca69
,ca83;ca85,ca9f;caa1,cabb;cabd,cad7;cad9,caf3;caf5,cb0f;cb11,cb2b;cb2d,cb47;cb49,cb63;cb65,cb7f;
cb81,cb9b;cb9d,cbb7;cbb9,cbd3;cbd5,cbef;cbf1,cc0b;cc0d,cc27;cc29,cc43;cc45,cc5f;cc61,cc7b;cc7d,c
c97;cc99,ccb3;ccb5,cccf;ccd1,cceb;cced,cd07;cd09,cd23;cd25,cd3f;cd41,cd5b;cd5d,cd77;cd79,cd93;cd
95,cdaf;cdb1,cdcb;cdcd,cde7;cde9,ce03;ce05,ce1f;ce21,ce3b;ce3d,ce57;ce59,ce73;ce75,ce8f;ce91,cea
b;cead,cec7;cec9,cee3;cee5,ceff;cf01,cf1b;cf1d,cf37;cf39,cf53;cf55,cf6f;cf71,cf8b;cf8d,cfa7;cfa9
,cfc3;cfc5,cfdf;cfe1,cffb;cffd,d017;d019,d033;d035,d04f;d051,d06b;d06d,d087;d089,d0a3;d0a5,d0bf;
d0c1,d0db;d0dd,d0f7;d0f9,d113;d115,d12f;d131,d14b;d14d,d167;d169,d183;d185,d19f;d1a1,d1bb;d1bd,d
1d7;d1d9,d1f3;d1f5,d20f;d211,d22b;d22d,d247;d249,d263;d265,d27f;d281,d29b;d29d,d2b7;d2b9,d2d3;d2
d5,d2ef;d2f1,d30b;d30d,d327;d329,d343;d345,d35f;d361,d37b;d37d,d397;d399,d3b3;d3b5,d3cf;d3d1,d3e
b;d3ed,d407;d409,d423;d425,d43f;d441,d45b;d45d,d477;d479,d493;d495,d4af;d4b1,d4cb;d4cd,d4e7;d4e9
,d503;d505,d51f;d521,d53b;d53d,d557;d559,d573;d575,d58f;d591,d5ab;d5ad,d5c7;d5c9,d5e3;d5e5,d5ff;
d601,d61b;d61d,d637;d639,d653;d655,d66f;d671,d68b;d68d,d6a7;d6a9,d6c3;d6c5,d6df;d6e1,d6fb;d6fd,d
717;d719,d733;d735,d74f;d751,d76b;d76d,d787;d789,d7a3
"),
  (["prepend", "pp"], "
600,605;6dd,6dd;70f,70f;890,891;8e2,8e2;d4e,d4e;110bd,110bd;110cd,110cd;111c2,111c3;113d1,113d1;
1193f,1193f;11941,11941;11a3a,11a3a;11a84,11a89;11d46,11d46;11f02,11f02
"),
  (["regionalindicator", "ri"], "
1f1e6,1f1ff
"),
  (["spacingmark", "sm"], "
903,903;93b,93b;93e,940;949,94c;94e,94f;982,983;9bf,9c0;9c7,9c8;9cb,9cc;a03,a03;a3e,a40;a83,a83;
abe,ac0;ac9,ac9;acb,acc;b02,b03;b40,b40;b47,b48;b4b,b4c;bbf,bbf;bc1,bc2;bc6,bc8;bca,bcc;c01,c03;
c41,c44;c82,c83;cbe,cbe;cc1,cc1;cc3,cc4;cf3,cf3;d02,d03;d3f,d40;d46,d48;d4a,d4c;d82,d83;dd0,dd1;
dd8,dde;df2,df3;e33,e33;eb3,eb3;f3e,f3f;f7f,f7f;1031,1031;103b,103c;1056,1057;1084,1084;17b6,17b
6;17be,17c5;17c7,17c8;1923,1926;1929,192b;1930,1931;1933,1938;1a19,1a1a;1a55,1a55;1a57,1a57;1a6d
,1a72;1b04,1b04;1b3e,1b41;1b82,1b82;1ba1,1ba1;1ba6,1ba7;1be7,1be7;1bea,1bec;1bee,1bee;1c24,1c2b;
1c34,1c35;1ce1,1ce1;1cf7,1cf7;a823,a824;a827,a827;a880,a881;a8b4,a8c3;a952,a952;a983,a983;a9b4,a
9b5;a9ba,a9bb;a9be,a9bf;aa2f,aa30;aa33,aa34;aa4d,aa4d;aaeb,aaeb;aaee,aaef;aaf5,aaf5;abe3,abe4;ab
e6,abe7;abe9,abea;abec,abec;11000,11000;11002,11002;11082,11082;110b0,110b2;110b7,110b8;1112c,11
12c;11145,11146;11182,11182;111b3,111b5;111bf,111bf;111ce,111ce;1122c,1122e;11232,11233;112e0,11
2e2;11302,11303;1133f,1133f;11341,11344;11347,11348;1134b,1134c;11362,11363;113b9,113ba;113ca,11
3ca;113cc,113cd;11435,11437;11440,11441;11445,11445;114b1,114b2;114b9,114b9;114bb,114bc;114be,11
4be;114c1,114c1;115b0,115b1;115b8,115bb;115be,115be;11630,11632;1163b,1163c;1163e,1163e;116ac,11
6ac;116ae,116af;11726,11726;1182c,1182e;11838,11838;11931,11935;11937,11938;11940,11940;11942,11
942;119d1,119d3;119dc,119df;119e4,119e4;11a39,11a39;11a57,11a58;11a97,11a97;11c2f,11c2f;11c3e,11
c3e;11ca9,11ca9;11cb1,11cb1;11cb4,11cb4;11d8a,11d8e;11d93,11d94;11d96,11d96;11ef5,11ef6;11f03,11
f03;11f34,11f35;11f3e,11f3f;1612a,1612c;16f51,16f87
"),
  (["t"], "
11a8,11ff;d7cb,d7fb
"),
  (["v"], "
1160,11a7;d7b0,d7c6
"),
  (["zwj"], "
200d,200d
")
]

/-- The word break values: loose aliases and ranges `first,last`. -/
def wordBreakData : List (List String × String) := [
  (["aletter", "le"], "
41,5a;61,7a;aa,aa;b5,b5;ba,ba;c0,d6;d8,f6;f8,2d7;2de,2ff;370,374;376,377;37a,37d;37f,37f;386,386
;388,38a;38c,38c;38e,3a1;3a3,3f5;3f7,481;48a,52f;531,556;559,55c;55e,55e;560,588;58a,58a;5f3,5f3
;620,64a;66e,66f;671,6d3;6d5,6d5;6e5,6e6;6ee,6ef;6fa,6fc;6ff,6ff;710,710;712,72f;74d,7a5;7b1,7b1
;7ca,7ea;7f4,7f5;7fa,7fa;800,815;81a,81a;824,824;828,828;840,858;860,86a;870,887;889,88e;8a0,8c9
;904,939;93d,93d;950,950;958,961;971,980;985,98c;98f,990;993,9a8;9aa,9b0;9b2,9b2;9b6,9b9;9bd,9bd
;9ce,9ce;9dc,9dd;9df,9e1;9f0,9f1;9fc,9fc;a05,a0a;a0f,a10;a13,a28;a2a,a30;a32,a33;a35,a36;a38,a39
;a59,a5c;a5e,a5e;a72,a74;a85,a8d;a8f,a91;a93,aa8;aaa,ab0;ab2,ab3;ab5,ab9;abd,abd;ad0,ad0;ae0,ae1
;af9,af9;b05,b0c;b0f,b10;b13,b28;b2a,b30;b32,b33;b35,b39;b3d,b3d;b5c,b5d;b5f,b61;b71,b71;b83,b83
;b85,b8a;b8e,b90;b92,b95;b99,b9a;b9c,b9c;b9e,b9f;ba3,ba4;ba8,baa;bae,bb9;bd0,bd0;c05,c0c;c0e,c10
;c12,c28;c2a,c39;c3d,c3d;c58,c5a;c5d,c5d;c60,c61;c80,c80;c85,c8c;c8e,c90;c92,ca8;caa,cb3;cb5,cb9
;cbd,cbd;cdd,cde;ce0,ce1;cf1,cf2;d04,d0c;d0e,d10;d12,d3a;d3d,d3d;d4e,d4e;d54,d56;d5f,d61;d7a,d7f
;d85,d96;d9a,db1;db3,dbb;dbd,dbd;dc0,dc6;f00,f00;f40,f47;f49,f6c;f88,f8c;10a0,10c5;10c7,10c7;10c
d,10cd;10d0,10fa;10fc,1248;124a,124d;1250,1256;1258,1258;125a,125d;1260,1288;128a,128d;1290,12b0
;12b2,12b5;12b8,12be;12c0,12c0;12c2,12c5;12c8,12d6;12d8,1310;1312,1315;1318,135a;1380,138f;13a0,
13f5;13f8,13fd;1401,166c;166f,167f;1681,169a;16a0,16ea;16ee,16f8;1700,1711;171f,1731;1740,1751;1
760,176c;176e,1770;1820,1878;1880,1884;1887,18a8;18aa,18aa;18b0,18f5;1900,191e;1a00,1a16;1b05,1b
33;1b45,1b4c;1b83,1ba0;1bae,1baf;1bba,1be5;1c00,1c23;1c4d,1c4f;1c5a,1c7d;1c80,1c8a;1c90,1cba;1cb
d,1cbf;1ce9,1cec;1cee,1cf3;1cf5,1cf6;1cfa,1cfa;1d00,1dbf;1e00,1f15;1f18,1f1d;1f20,1f45;1f48,1f4d
;1f50,1f57;1f59,1f59;1f5b,1f5b;1f5d,1f5d;1f5f,1f7d;1f80,1fb4;1fb6,1fbc;1fbe,1fbe;1fc2,1fc4;1fc6,
1fcc;1fd0,1fd3;1fd6,1fdb;1fe0,1fec;1ff2,1ff4;1ff6,1ffc;2071,2071;207f,207f;2090,209c;2102,2102;2
107,2107;210a,2113;2115,2115;2119,211d;2124,2124;2126,2126;2128,2128;212a,212d;212f,2139;213c,21
3f;2145,2149;214e,214e;2160,2188;24b6,24e9;2c00,2ce4;2ceb,2cee;2cf2,2cf3;2d00,2d25;2d27,2d27;2d2
d,2d2d;2d30,2d67;2d6f,2d6f;2d80,2d96;2da0,2da6;2da8,2dae;2db0,2db6;2db8,2dbe;2dc0,2dc6;2dc8,2dce
;2dd0,2dd6;2dd8,2dde;2e2f,2e2f;3005,3005;303b,303c;3105,312f;3131,318e;31a0,31bf;a000,a48c;a4d0,
a4fd;a500,a60c;a610,a61f;a62a,a62b;a640,a66e;a67f,a69d;a6a0,a6ef;a708,a7cd;a7d0,a7d1;a7d3,a7d3;a
7d5,a7dc;a7f2,a801;a803,a805;a807,a80a;a80c,a822;a840,a873;a882,a8b3;a8f2,a8f7;a8fb,a8fb;a8fd,a8
fe;a90a,a925;a930,a946;a960,a97c;a984,a9b2;a9cf,a9cf;aa00,aa28;aa40,aa42;aa44,aa4b;aae0,aaea;aaf
2,aaf4;ab01,ab06;ab09,ab0e;ab11,ab16;ab20,ab26;ab28,ab2e;ab30,ab69;ab70,abe2;ac00,d7a3;d7b0,d7c6
;d7cb,d7fb;fb00,fb06;fb13,fb17;fb50,fbb1;fbd3,fd3d;fd50,fd8f;fd92,fdc7;fdf0,fdfb;fe70,fe74;fe76,
fefc;ff21,ff3a;ff41,ff5a;ffa0,ffbe;ffc2,ffc7;ffca,ffcf;ffd2,ffd7;ffda,ffdc;10000,1000b;1000d,100
26;10028,1003a;1003c,1003d;1003f,1004d;10050,1005d;10080,100fa;10140,10174;10280,1029c;102a0,102
d0;10300,1031f;1032d,1034a;10350,10375;10380,1039d;103a0,103c3;103c8,103cf;103d1,103d5;10400,104
9d;104b0,104d3;104d8,104fb;10500,10527;10530,10563;10570,1057a;1057c,1058a;1058c,10592;10594,105
95;10597,105a1;105a3,105b1;105b3,105b9;105bb,105bc;105c0,105f3;10600,10736;10740,10755;10760,107
67;10780,10785;10787,107b0;107b2,107ba;10800,10805;10808,10808;1080a,10835;10837,10838;1083c,108
3c;1083f,10855;10860,10876;10880,1089e;108e0,108f2;108f4,108f5;10900,10915;10920,10939;10980,109
b7;109be,109bf;10a00,10a00;10a10,10a13;10a15,10a17;10a19,10a35;10a60,10a7c;10a80,10a9c;10ac0,10a
c7;10ac9,10ae4;10b00,10b35;10b40,10b55;10b60,10b72;10b80,10b91;10c00,10c48;10c80,10cb2;10cc0,10c
f2;10d00,10d23;10d4a,10d65;10d6f,10d85;10e80,10ea9;10eb0,10eb1;10ec2,10ec4;10f00,10f1c;10f27,10f
27;10f30,10f45;10f70,10f81;10fb0,10fc4;10fe0,10ff6;11003,11037;11071,11072;11075,11075;11083,110
af;110d0,110e8;11103,11126;11144,11144;11147,11147;11150,11172;11176,11176;11183,111b2;111c1,111
c4;111da,111da;111dc,111dc;11200,11211;11213,1122b;1123f,11240;11280,11286;11288,11288;1128a,112
8d;1128f,1129d;1129f,112a8;112b0,112de;11305,1130c;1130f,11310;11313,11328;1132a,11330;11332,113
33;11335,11339;1133d,1133d;11350,11350;1135d,11361;11380,11389;1138b,1138b;1138e,1138e;11390,113
b5;113b7,113b7;113d1,113d1;113d3,113d3;11400,11434;11447,1144a;1145f,11461;11480,114af;114c4,114
c5;114c7,114c7;11580,115ae;115d8,115db;11600,1162f;11644,11644;11680,116aa;116b8,116b8;11800,118
2b;118a0,118df;118ff,11906;11909,11909;1190c,11913;11915,11916;11918,1192f;1193f,1193f;11941,119
41;119a0,119a7;119aa,119d0;119e1,119e1;119e3,119e3;11a00,11a00;11a0b,11a32;11a3a,11a3a;11a50,11a
50;11a5c,11a89;11a9d,11a9d;11ab0,11af8;11bc0,11be0;11c00,11c08;11c0a,11c2e;11c40,11c40;11c72,11c
8f;11d00,11d06;11d08,11d09;11d0b,11d30;11d46,11d46;11d60,11d65;11d67,11d68;11d6a,11d89;11d98,11d
98;11ee0,11ef2;11f02,11f02;11f04,11f10;11f12,11f33;11fb0,11fb0;12000,12399;12400,1246e;12480,125
43;12f90,12ff0;13000,1342f;13441,13446;13460,143fa;14400,14646;16100,1611d;16800,16a38;16a40,16a
5e;16a70,16abe;16ad0,16aed;16b00,16b2f;16b40,16b43;16b63,16b77;16b7d,16b8f;16d40,16d6c;16e40,16e
7f;16f00,16f4a;16f50,16f50;16f93,16f9f;16fe0,16fe1;16fe3,16fe3;1bc00,1bc6a;1bc70,1bc7c;1bc80,1bc
88;1bc90,1bc99;1d400,1d454;1d456,1d49c;1d49e,1d49f;1d4a2,1d4a2;1d4a5,1d4a6;1d4a9,1d4ac;1d4ae,1d4
b9;1d4bb,1d4bb;1d4bd,1d4c3;1d4c5,1d505;1d507,1d50a;1d50d,1d514;1d516,1d51c;1d51e,1d539;1d53b,1d5
3e;1d540,1d544;1d546,1d546;1d54a,1d550;1d552,1d6a5;1d6a8,1d6c0;1d6c2,1d6da;1d6dc,1d6fa;1d6fc,1d7
14;1d716,1d734;1d736,1d74e;1d750,1d76e;1d770,1d788;1d78a,1d7a8;1d7aa,1d7c2;1d7c4,1d7cb;1df00,1df
1e;1df25,1df2a;1e030,1e06d;1e100,1e12c;1e137,1e13d;1e14e,1e14e;1e290,1e2ad;1e2c0,1e2eb;1e4d0,1e4
eb;1e5d0,1e5ed;1e5f0,1e5f0;1e7e0,1e7e6;1e7e8,1e7eb;1e7ed,1e7ee;1e7f0,1e7fe;1e800,1e8c4;1e900,1e9
43;1e94b,1e94b;1ee00,1ee03;1ee05,1ee1f;1ee21,1ee22;1ee24,1ee24;1ee27,1ee27;1ee29,1ee32;1ee34,1ee
37;1ee39,1ee39;1ee3b,1ee3b;1ee42,1ee42;1ee47,1ee47;1ee49,1ee49;1ee4b,1ee4b;1ee4d,1ee4f;1ee51,1ee
52;1ee54,1ee54;1ee57,1ee57;1ee59,1ee59;1ee5b,1ee5b;1ee5d,1ee5d;1ee5f,1ee5f;1ee61,1ee62;1ee64,1ee
64;1ee67,1ee6a;1ee6c,1ee72;1ee74,1ee77;1ee79,1ee7c;1ee7e,1ee7e;1ee80,1ee89;1ee8b,1ee9b;1eea1,1ee
a3;1eea5,1eea9;1eeab,1eebb;1f130,1f149;1f150,1f169;1f170,1f189
"),
  (["cr"], "
d,d
"),
  (["doublequote", "dq"], "
22,22
"),
  (["extend"], "
300,36f;483,489;591,5bd;5bf,5bf;5c1,5c2;5c4,5c5;5c7,5c7;610,61a;64b,65f;670,670;6d6,6dc;6df,6e4;
6e7,6e8;6ea,6ed;711,711;730,74a;7a6,7b0;7eb,7f3;7fd,7fd;816,819;81b,823;825,827;829,82d;859,85b;
897,89f;8ca,8e1;8e3,903;93a,93c;93e,94f;951,957;962,963;981,983;9bc,9bc;9be,9c4;9c7,9c8;9cb,9cd;
9d7,9d7;9e2,9e3;9fe,9fe;a01,a03;a3c,a3c;a3e,a42;a47,a48;a4b,a4d;a51,a51;a70,a71;a75,a75;a81,a83;
abc,abc;abe,ac5;ac7,ac9;acb,acd;ae2,ae3;afa,aff;b01,b03;b3c,b3c;b3e,b44;b47,b48;b4b,b4d;b55,b57;
b62,b63;b82,b82;bbe,bc2;bc6,bc8;bca,bcd;bd7,bd7;c00,c04;c3c,c3c;c3e,c44;c46,c48;c4a,c4d;c55,c56;
c62,c63;c81,c83;cbc,cbc;cbe,cc4;cc6,cc8;cca,ccd;cd5,cd6;ce2,ce3;cf3,cf3;d00,d03;d3b,d3c;d3e,d44;
d46,d48;d4a,d4d;d57,d57;d62,d63;d81,d83;dca,dca;dcf,dd4;dd6,dd6;dd8,ddf;df2,df3;e31,e31;e34,e3a;
e47,e4e;eb1,eb1;eb4,ebc;ec8,ece;f18,f19;f35,f35;f37,f37;f39,f39;f3e,f3f;f71,f84;f86,f87;f8d,f97;
f99,fbc;fc6,fc6;102b,103e;1056,1059;105e,1060;1062,1064;1067,106d;1071,1074;1082,108d;108f,108f;
109a,109d;135d,135f;1712,1715;1732,1734;1752,1753;1772,1773;17b4,17d3;17dd,17dd;180b,180d;180f,1
80f;1885,1886;18a9,18a9;1920,192b;1930,193b;1a17,1a1b;1a55,1a5e;1a60,1a7c;1a7f,1a7f;1ab0,1ace;1b
00,1b04;1b34,1b44;1b6b,1b73;1b80,1b82;1ba1,1bad;1be6,1bf3;1c24,1c37;1cd0,1cd2;1cd4,1ce8;1ced,1ce
d;1cf4,1cf4;1cf7,1cf9;1dc0,1dff;200c,200c;20d0,20f0;2cef,2cf1;2d7f,2d7f;2de0,2dff;302a,302f;3099
,309a;a66f,a672;a674,a67d;a69e,a69f;a6f0,a6f1;a802,a802;a806,a806;a80b,a80b;a823,a827;a82c,a82c;
a880,a881;a8b4,a8c5;a8e0,a8f1;a8ff,a8ff;a926,a92d;a947,a953;a980,a983;a9b3,a9c0;a9e5,a9e5;aa29,a
a36;aa43,aa43;aa4c,aa4d;aa7b,aa7d;aab0,aab0;aab2,aab4;aab7,aab8;aabe,aabf;aac1,aac1;aaeb,aaef;aa
f5,aaf6;abe3,abea;abec,abed;fb1e,fb1e;fe00,fe0f;fe20,fe2f;ff9e,ff9f;101fd,101fd;102e0,102e0;1037
6,1037a;10a01,10a03;10a05,10a06;10a0c,10a0f;10a38,10a3a;10a3f,10a3f;10ae5,10ae6;10d24,10d27;10d6
9,10d6d;10eab,10eac;10efc,10eff;10f46,10f50;10f82,10f85;11000,11002;11038,11046;11070,11070;1107
3,11074;1107f,11082;110b0,110ba;110c2,110c2;11100,11102;11127,11134;11145,11146;11173,11173;1118
0,11182;111b3,111c0;111c9,111cc;111ce,111cf;1122c,11237;1123e,1123e;11241,11241;112df,112ea;1130
0,11303;1133b,1133c;1133e,11344;11347,11348;1134b,1134d;11357,11357;11362,11363;11366,1136c;1137
0,11374;113b8,113c0;113c2,113c2;113c5,113c5;113c7,113ca;113cc,113d0;113d2,113d2;113e1,113e2;1143
5,11446;1145e,1145e;114b0,114c3;115af,115b5;115b8,115c0;115dc,115dd;11630,11640;116ab,116b7;1171
d,1172b;1182c,1183a;11930,11935;11937,11938;1193b,1193e;11940,11940;11942,11943;119d1,119d7;119d
a,119e0;119e4,119e4;11a01,11a0a;11a33,11a39;11a3b,11a3e;11a47,11a47;11a51,11a5b;11a8a,11a99;11c2
f,11c36;11c38,11c3f;11c92,11ca7;11ca9,11cb6;11d31,11d36;11d3a,11d3a;11d3c,11d3d;11d3f,11d45;11d4
7,11d47;11d8a,11d8e;11d90,11d91;11d93,11d97;11ef3,11ef6;11f00,11f01;11f03,11f03;11f34,11f3a;11f3
e,11f42;11f5a,11f5a;13440,13440;13447,13455;1611e,1612f;16af0,16af4;16b30,16b36;16f4f,16f4f;16f5
1,16f87;16f8f,16f92;16fe4,16fe4;16ff0,16ff1;1bc9d,1bc9e;1cf00,1cf2d;1cf30,1cf46;1d165,1d169;1d16
d,1d172;1d17b,1d182;1d185,1d18b;1d1aa,1d1ad;1d242,1d244;1da00,1da36;1da3b,1da6c;1da75,1da75;1da8
4,1da84;1da9b,1da9f;1daa1,1daaf;1e000,1e006;1e008,1e018;1e01b,1e021;1e023,1e024;1e026,1e02a;1e08
f,1e08f;1e130,1e136;1e2ae,1e2ae;1e2ec,1e2ef;1e4ec,1e4ef;1e5ee,1e5ef;1e8d0,1e8d6;1e944,1e94a;1f3f
b,1f3ff;e0020,e007f;e0100,e01ef
"),
  (["extendnumlet", "ex"], "
5f,5f;202f,202f;203f,2040;2054,2054;fe33,fe34;fe4d,fe4f;ff3f,ff3f
"),
  (["format", "fo"], "
ad,ad;600,605;61c,61c;6dd,6dd;70f,70f;890,891;8e2,8e2;180e,180e;200e,200f;202a,202e;2060,2064;20
66,206f;feff,feff;fff9,fffb;110bd,110bd;110cd,110cd;13430,1343f;1bca0,1bca3;1d173,1d17a;e0001,e0
001
"),
  (["hebrewletter", "hl"], "
5d0,5ea;5ef,5f2;fb1d,fb1d;fb1f,fb28;fb2a,fb36;fb38,fb3c;fb3e,fb3e;fb40,fb41;fb43,fb44;fb46,fb4f
"),
  (["katakana", "ka"], "
3031,3035;309b,309c;30a0,30fa;30fc,30ff;31f0,31ff;32d0,32fe;3300,3357;ff66,ff9d;1aff0,1aff3;1aff
5,1affb;1affd,1affe;1b000,1b000;1b120,1b122;1b155,1b155;1b164,1b167
"),
  (["lf"], "
a,a
"),
  (["midletter", "ml"], "
3a,3a;b7,b7;387,387;55f,55f;5f4,5f4;2027,2027;fe13,fe13;fe55,fe55;ff1a,ff1a
"),
  (["midnum", "mn"], "
2c,2c;3b,3b;37e,37e;589,589;60c,60d;66c,66c;7f8,7f8;2044,2044;fe10,fe10;fe14,fe14;fe50,fe50;fe54
,fe54;ff0c,ff0c;ff1b,ff1b
"),
  (["midnumlet", "mb"], "
2e,2e;2018,2019;2024,2024;fe52,fe52;ff07,ff07;ff0e,ff0e
"),
  (["newline", "nl"], "
b,c;85,85;2028,2029
"),
  (["numeric", "nu"], "
30,39;660,669;66b,66b;6f0,6f9;7c0,7c9;966,96f;9e6,9ef;a66,a6f;ae6,aef;b66,b6f;be6,bef;c66,c6f;ce
6,cef;d66,d6f;de6,def;e50,e59;ed0,ed9;f20,f29;1040,1049;1090,1099;17e0,17e9;1810,1819;1946,194f;
19d0,19d9;1a80,1a89;1a90,1a99;1b50,1b59;1bb0,1bb9;1c40,1c49;1c50,1c59;a620,a629;a8d0,a8d9;a900,a
909;a9d0,a9d9;a9f0,a9f9;aa50,aa59;abf0,abf9;ff10,ff19;104a0,104a9;10d30,10d39;10d40,10d49;11066,
1106f;110f0,110f9;11136,1113f;111d0,111d9;112f0,112f9;11450,11459;114d0,114d9;11650,11659;116c0,
116c9;116d0,116e3;11730,11739;118e0,118e9;11950,11959;11bf0,11bf9;11c50,11c59;11d50,11d59;11da0,
11da9;11f50,11f59;16130,16139;16a60,16a69;16ac0,16ac9;16b50,16b59;16d70,16d79;1ccf0,1ccf9;1d7ce,
1d7ff;1e140,1e149;1e2f0,1e2f9;1e4f0,1e4f9;1e5f1,1e5fa;1e950,1e959;1fbf0,1fbf9
"),
  (["regionalindicator", "ri"], "
1f1e6,1f1ff
"),
  (["singlequote", "sq"], "
27,27
"),
  (["wsegspace"], "
20,20;1680,1680;2000,2006;2008,200a;205f,205f;3000,3000
"),
  (["zwj"], "
200d,200d
")
]

/-- The sentence break values: loose aliases and ranges `first,last`. -/
def sentenceBreakData : List (List String × String) := [
  (["aterm", "at"], "
2e,2e;2024,2024;fe52,fe52;ff0e,ff0e
"),
  (["cr"], "
d,d
"),
  (["close", "cl"], "
22,22;27,29;5b,5b;5d,5d;7b,7b;7d,7d;ab,ab;bb,bb;f3a,f3d;169b,169c;2018,201f;2039,203a;2045,2046;
207d,207e;208d,208e;2308,230b;2329,232a;275b,2760;2768,2775;27c5,27c6;27e6,27ef;2983,2998;29d8,2
9db;29fc,29fd;2e00,2e0d;2e1c,2e1d;2e20,2e29;2e42,2e42;2e55,2e5c;3008,3011;3014,301b;301d,301f;fd
3e,fd3f;fe17,fe18;fe35,fe44;fe47,fe48;fe59,fe5e;ff08,ff09;ff3b,ff3b;ff3d,ff3d;ff5b,ff5b;ff5d,ff5
d;ff5f,ff60;ff62,ff63;1f676,1f678
"),
  (["extend", "ex"], "
300,36f;483,489;591,5bd;5bf,5bf;5c1,5c2;5c4,5c5;5c7,5c7;610,61a;64b,65f;670,670;6d6,6dc;6df,6e4;
6e7,6e8;6ea,6ed;711,711;730,74a;7a6,7b0;7eb,7f3;7fd,7fd;816,819;81b,823;825,827;829,82d;859,85b;
897,89f;8ca,8e1;8e3,903;93a,93c;93e,94f;951,957;962,963;981,983;9bc,9bc;9be,9c4;9c7,9c8;9cb,9cd;
9d7,9d7;9e2,9e3;9fe,9fe;a01,a03;a3c,a3c;a3e,a42;a47,a48;a4b,a4d;a51,a51;a70,a71;a75,a75;a81,a83;
abc,abc;abe,ac5;ac7,ac9;acb,acd;ae2,ae3;afa,aff;b01,b03;b3c,b3c;b3e,b44;b47,b48;b4b,b4d;b55,b57;
b62,b63;b82,b82;bbe,bc2;bc6,bc8;bca,bcd;bd7,bd7;c00,c04;c3c,c3c;c3e,c44;c46,c48;c4a,c4d;c55,c56;
c62,c63;c81,c83;cbc,cbc;cbe,cc4;cc6,cc8;cca,ccd;cd5,cd6;ce2,ce3;cf3,cf3;d00,d03;d3b,d3c;d3e,d44;
d46,d48;d4a,d4d;d57,d57;d62,d63;d81,d83;dca,dca;dcf,dd4;dd6,dd6;dd8,ddf;df2,df3;e31,e31;e34,e3a;
e47,e4e;eb1,eb1;eb4,ebc;ec8,ece;f18,f19;f35,f35;f37,f37;f39,f39;f3e,f3f;f71,f84;f86,f87;f8d,f97;
f99,fbc;fc6,fc6;102b,103e;1056,1059;105e,1060;1062,1064;1067,106d;1071,1074;1082,108d;108f,108f;
109a,109d;135d,135f;1712,1715;1732,1734;1752,1753;1772,1773;17b4,17d3;17dd,17dd;180b,180d;180f,1
80f;1885,1886;18a9,18a9;1920,192b;1930,193b;1a17,1a1b;1a55,1a5e;1a60,1a7c;1a7f,1a7f;1ab0,1ace;1b
00,1b04;1b34,1b44;1b6b,1b73;1b80,1b82;1ba1,1bad;1be6,1bf3;1c24,1c37;1cd0,1cd2;1cd4,1ce8;1ced,1ce
d;1cf4,1cf4;1cf7,1cf9;1dc0,1dff;200c,200d;20d0,20f0;2cef,2cf1;2d7f,2d7f;2de0,2dff;302a,302f;3099
,309a;a66f,a672;a674,a67d;a69e,a69f;a6f0,a6f1;a802,a802;a806,a806;a80b,a80b;a823,a827;a82c,a82c;
a880,a881;a8b4,a8c5;a8e0,a8f1;a8ff,a8ff;a926,a92d;a947,a953;a980,a983;a9b3,a9c0;a9e5,a9e5;aa29,a
a36;aa43,aa43;aa4c,aa4d;aa7b,aa7d;aab0,aab0;aab2,aab4;aab7,aab8;aabe,aabf;aac1,aac1;aaeb,aaef;aa
f5,aaf6;abe3,abea;abec,abed;fb1e,fb1e;fe00,fe0f;fe20,fe2f;ff9e,ff9f;101fd,101fd;102e0,102e0;1037
6,1037a;10a01,10a03;10a05,10a06;10a0c,10a0f;10a38,10a3a;10a3f,10a3f;10ae5,10ae6;10d24,10d27;10d6
9,10d6d;10eab,10eac;10efc,10eff;10f46,10f50;10f82,10f85;11000,11002;11038,11046;11070,11070;1107
3,11074;1107f,11082;110b0,110ba;110c2,110c2;11100,11102;11127,11134;11145,11146;11173,11173;1118
0,11182;111b3,111c0;111c9,111cc;111ce,111cf;1122c,11237;1123e,1123e;11241,11241;112df,112ea;1130
0,11303;1133b,1133c;1133e,11344;11347,11348;1134b,1134d;11357,11357;11362,11363;11366,1136c;1137
0,11374;113b8,113c0;113c2,113c2;113c5,113c5;113c7,113ca;113cc,113d0;113d2,113d2;113e1,113e2;1143
5,11446;1145e,1145e;114b0,114c3;115af,115b5;115b8,115c0;115dc,115dd;11630,11640;116ab,116b7;1171
d,1172b;1182c,1183a;11930,11935;11937,11938;1193b,1193e;11940,11940;11942,11943;119d1,119d7;119d
a,119e0;119e4,119e4;11a01,11a0a;11a33,11a39;11a3b,11a3e;11a47,11a47;11a51,11a5b;11a8a,11a99;11c2
f,11c36;11c38,11c3f;11c92,11ca7;11ca9,11cb6;11d31,11d36;11d3a,11d3a;11d3c,11d3d;11d3f,11d45;11d4
7,11d47;11d8a,11d8e;11d90,11d91;11d93,11d97;11ef3,11ef6;11f00,11f01;11f03,11f03;11f34,11f3a;11f3
e,11f42;11f5a,11f5a;13440,13440;13447,13455;1611e,1612f;16af0,16af4;16b30,16b36;16f4f,16f4f;16f5
1,16f87;16f8f,16f92;16fe4,16fe4;16ff0,16ff1;1bc9d,1bc9e;1cf00,1cf2d;1cf30,1cf46;1d165,1d169;1d16
d,1d172;1d17b,1d182;1d185,1d18b;1d1aa,1d1ad;1d242,1d244;1da00,1da36;1da3b,1da6c;1da75,1da75;1da8
4,1da84;1da9b,1da9f;1daa1,1daaf;1e000,1e006;1e008,1e018;1e01b,1e021;1e023,1e024;1e026,1e02a;1e08
f,1e08f;1e130,1e136;1e2ae,1e2ae;1e2ec,1e2ef;1e4ec,1e4ef;1e5ee,1e5ef;1e8d0,1e8d6;1e944,1e94a;e002
0,e007f;e0100,e01ef
"),
  (["format", "fo"], "
ad,ad;600,605;61c,61c;6dd,6dd;70f,70f;890,891;8e2,8e2;180e,180e;200b,200b;200e,200f;202a,202e;20
60,2064;2066,206f;feff,feff;fff9,fffb;110bd,110bd;110cd,110cd;13430,1343f;1bca0,1bca3;1d173,1d17
a;e0001,e0001
"),
  (["lf"], "
a,a
"),
  (["lower", "lo"], "
61,7a;aa,aa;b5,b5;ba,ba;df,f6;f8,ff;101,101;103,103;105,105;107,107;109,109;10b,10b;10d,10d;10f,
10f;111,111;113,113;115,115;117,117;119,119;11b,11b;11d,11d;11f,11f;121,121;123,123;125,125;127,
127;129,129;12b,12b;12d,12d;12f,12f;131,131;133,133;135,135;137,138;13a,13a;13c,13c;13e,13e;140,
140;142,142;144,144;146,146;148,149;14b,14b;14d,14d;14f,14f;151,151;153,153;155,155;157,157;159,
159;15b,15b;15d,15d;15f,15f;161,161;163,163;165,165;167,167;169,169;16b,16b;16d,16d;16f,16f;171,
171;173,173;175,175;177,177;17a,17a;17c,17c;17e,180;183,183;185,185;188,188;18c,18d;192,192;195,
195;199,19b;19e,19e;1a1,1a1;1a3,1a3;1a5,1a5;1a8,1a8;1aa,1ab;1ad,1ad;1b0,1b0;1b4,1b4;1b6,1b6;1b9,
1ba;1bd,1bf;1c6,1c6;1c9,1c9;1cc,1cc;1ce,1ce;1d0,1d0;1d2,1d2;1d4,1d4;1d6,1d6;1d8,1d8;1da,1da;1dc,
1dd;1df,1df;1e1,1e1;1e3,1e3;1e5,1e5;1e7,1e7;1e9,1e9;1eb,1eb;1ed,1ed;1ef,1f0;1f3,1f3;1f5,1f5;1f9,
1f9;1fb,1fb;1fd,1fd;1ff,1ff;201,201;203,203;205,205;207,207;209,209;20b,20b;20d,20d;20f,20f;211,
211;213,213;215,215;217,217;219,219;21b,21b;21d,21d;21f,21f;221,221;223,223;225,225;227,227;229,
229;22b,22b;22d,22d;22f,22f;231,231;233,239;23c,23c;23f,240;242,242;247,247;249,249;24b,24b;24d,
24d;24f,293;295,2b8;2c0,2c1;2e0,2e4;371,371;373,373;377,377;37a,37d;390,390;3ac,3ce;3d0,3d1;3d5,
3d7;3d9,3d9;3db,3db;3dd,3dd;3df,3df;3e1,3e1;3e3,3e3;3e5,3e5;3e7,3e7;3e9,3e9;3eb,3eb;3ed,3ed;3ef,
3f3;3f5,3f5;3f8,3f8;3fb,3fc;430,45f;461,461;463,463;465,465;467,467;469,469;46b,46b;46d,46d;46f,
46f;471,471;473,473;475,475;477,477;479,479;47b,47b;47d,47d;47f,47f;481,481;48b,48b;48d,48d;48f,
48f;491,491;493,493;495,495;497,497;499,499;49b,49b;49d,49d;49f,49f;4a1,4a1;4a3,4a3;4a5,4a5;4a7,
4a7;4a9,4a9;4ab,4ab;4ad,4ad;4af,4af;4b1,4b1;4b3,4b3;4b5,4b5;4b7,4b7;4b9,4b9;4bb,4bb;4bd,4bd;4bf,
4bf;4c2,4c2;4c4,4c4;4c6,4c6;4c8,4c8;4ca,4ca;4cc,4cc;4ce,4cf;4d1,4d1;4d3,4d3;4d5,4d5;4d7,4d7;4d9,
4d9;4db,4db;4dd,4dd;4df,4df;4e1,4e1;4e3,4e3;4e5,4e5;4e7,4e7;4e9,4e9;4eb,4eb;4ed,4ed;4ef,4ef;4f1,
4f1;4f3,4f3;4f5,4f5;4f7,4f7;4f9,4f9;4fb,4fb;4fd,4fd;4ff,4ff;501,501;503,503;505,505;507,507;509,
509;50b,50b;50d,50d;50f,50f;511,511;513,513;515,515;517,517;519,519;51b,51b;51d,51d;51f,51f;521,
521;523,523;525,525;527,527;529,529;52b,52b;52d,52d;52f,52f;560,588;10fc,10fc;13f8,13fd;1c80,1c8
8;1c8a,1c8a;1d00,1dbf;1e01,1e01;1e03,1e03;1e05,1e05;1e07,1e07;1e09,1e09;1e0b,1e0b;1e0d,1e0d;1e0f
,1e0f;1e11,1e11;1e13,1e13;1e15,1e15;1e17,1e17;1e19,1e19;1e1b,1e1b;1e1d,1e1d;1e1f,1e1f;1e21,1e21;
1e23,1e23;1e25,1e25;1e27,1e27;1e29,1e29;1e2b,1e2b;1e2d,1e2d;1e2f,1e2f;1e31,1e31;1e33,1e33;1e35,1
e35;1e37,1e37;1e39,1e39;1e3b,1e3b;1e3d,1e3d;1e3f,1e3f;1e41,1e41;1e43,1e43;1e45,1e45;1e47,1e47;1e
49,1e49;1e4b,1e4b;1e4d,1e4d;1e4f,1e4f;1e51,1e51;1e53,1e53;1e55,1e55;1e57,1e57;1e59,1e59;1e5b,1e5
b;1e5d,1e5d;1e5f,1e5f;1e61,1e61;1e63,1e63;1e65,1e65;1e67,1e67;1e69,1e69;1e6b,1e6b;1e6d,1e6d;1e6f
,1e6f;1e71,1e71;1e73,1e73;1e75,1e75;1e77,1e77;1e79,1e79;1e7b,1e7b;1e7d,1e7d;1e7f,1e7f;1e81,1e81;
1e83,1e83;1e85,1e85;1e87,1e87;1e89,1e89;1e8b,1e8b;1e8d,1e8d;1e8f,1e8f;1e91,1e91;1e93,1e93;1e95,1
e9d;1e9f,1e9f;1ea1,1ea1;1ea3,1ea3;1ea5,1ea5;1ea7,1ea7;1ea9,1ea9;1eab,1eab;1ead,1ead;1eaf,1eaf;1e
b1,1eb1;1eb3,1eb3;1eb5,1eb5;1eb7,1eb7;1eb9,1eb9;1ebb,1ebb;1ebd,1ebd;1ebf,1ebf;1ec1,1ec1;1ec3,1ec
3;1ec5,1ec5;1ec7,1ec7;1ec9,1ec9;1ecb,1ecb;1ecd,1ecd;1ecf,1ecf;1ed1,1ed1;1ed3,1ed3;1ed5,1ed5;1ed7
,1ed7;1ed9,1ed9;1edb,1edb;1edd,1edd;1edf,1edf;1ee1,1ee1;1ee3,1ee3;1ee5,1ee5;1ee7,1ee7;1ee9,1ee9;
1eeb,1eeb;1eed,1eed;1eef,1eef;1ef1,1ef1;1ef3,1ef3;1ef5,1ef5;1ef7,1ef7;1ef9,1ef9;1efb,1efb;1efd,1
efd;1eff,1f07;1f10,1f15;1f20,1f27;1f30,1f37;1f40,1f45;1f50,1f57;1f60,1f67;1f70,1f7d;1f80,1f87;1f
90,1f97;1fa0,1fa7;1fb0,1fb4;1fb6,1fb7;1fbe,1fbe;1fc2,1fc4;1fc6,1fc7;1fd0,1fd3;1fd6,1fd7;1fe0,1fe
7;1ff2,1ff4;1ff6,1ff7;2071,2071;207f,207f;2090,209c;210a,210a;210e,210f;2113,2113;212f,212f;2134
,2134;2139,2139;213c,213d;2146,2149;214e,214e;2170,217f;2184,2184;24d0,24e9;2c30,2c5f;2c61,2c61;
2c65,2c66;2c68,2c68;2c6a,2c6a;2c6c,2c6c;2c71,2c71;2c73,2c74;2c76,2c7d;2c81,2c81;2c83,2c83;2c85,2
c85;2c87,2c87;2c89,2c89;2c8b,2c8b;2c8d,2c8d;2c8f,2c8f;2c91,2c91;2c93,2c93;2c95,2c95;2c97,2c97;2c
99,2c99;2c9b,2c9b;2c9d,2c9d;2c9f,2c9f;2ca1,2ca1;2ca3,2ca3;2ca5,2ca5;2ca7,2ca7;2ca9,2ca9;2cab,2ca
b;2cad,2cad;2caf,2caf;2cb1,2cb1;2cb3,2cb3;2cb5,2cb5;2cb7,2cb7;2cb9,2cb9;2cbb,2cbb;2cbd,2cbd;2cbf
,2cbf;2cc1,2cc1;2cc3,2cc3;2cc5,2cc5;2cc7,2cc7;2cc9,2cc9;2ccb,2ccb;2ccd,2ccd;2ccf,2ccf;2cd1,2cd1;
2cd3,2cd3;2cd5,2cd5;2cd7,2cd7;2cd9,2cd9;2cdb,2cdb;2cdd,2cdd;2cdf,2cdf;2ce1,2ce1;2ce3,2ce4;2cec,2
cec;2cee,2cee;2cf3,2cf3;2d00,2d25;2d27,2d27;2d2d,2d2d;a641,a641;a643,a643;a645,a645;a647,a647;a6
49,a649;a64b,a64b;a64d,a64d;a64f,a64f;a651,a651;a653,a653;a655,a655;a657,a657;a659,a659;a65b,a65
b;a65d,a65d;a65f,a65f;a661,a661;a663,a663;a665,a665;a667,a667;a669,a669;a66b,a66b;a66d,a66d;a681
,a681;a683,a683;a685,a685;a687,a687;a689,a689;a68b,a68b;a68d,a68d;a68f,a68f;a691,a691;a693,a693;
a695,a695;a697,a697;a699,a699;a69b,a69d;a723,a723;a725,a725;a727,a727;a729,a729;a72b,a72b;a72d,a
72d;a72f,a731;a733,a733;a735,a735;a737,a737;a739,a739;a73b,a73b;a73d,a73d;a73f,a73f;a741,a741;a7
43,a743;a745,a745;a747,a747;a749,a749;a74b,a74b;a74d,a74d;a74f,a74f;a751,a751;a753,a753;a755,a75
5;a757,a757;a759,a759;a75b,a75b;a75d,a75d;a75f,a75f;a761,a761;a763,a763;a765,a765;a767,a767;a769
,a769;a76b,a76b;a76d,a76d;a76f,a778;a77a,a77a;a77c,a77c;a77f,a77f;a781,a781;a783,a783;a785,a785;
a787,a787;a78c,a78c;a78e,a78e;a791,a791;a793,a795;a797,a797;a799,a799;a79b,a79b;a79d,a79d;a79f,a
79f;a7a1,a7a1;a7a3,a7a3;a7a5,a7a5;a7a7,a7a7;a7a9,a7a9;a7af,a7af;a7b5,a7b5;a7b7,a7b7;a7b9,a7b9;a7
bb,a7bb;a7bd,a7bd;a7bf,a7bf;a7c1,a7c1;a7c3,a7c3;a7c8,a7c8;a7ca,a7ca;a7cd,a7cd;a7d1,a7d1;a7d3,a7d
3;a7d5,a7d5;a7d7,a7d7;a7d9,a7d9;a7db,a7db;a7f2,a7f4;a7f6,a7f6;a7f8,a7fa;ab30,ab5a;ab5c,ab69;ab70
,abbf;fb00,fb06;fb13,fb17;ff41,ff5a;10428,1044f;104d8,104fb;10597,105a1;105a3,105b1;105b3,105b9;
105bb,105bc;10780,10780;10783,10785;10787,107b0;107b2,107ba;10cc0,10cf2;10d70,10d85;118c0,118df;
16e60,16e7f;1d41a,1d433;1d44e,1d454;1d456,1d467;1d482,1d49b;1d4b6,1d4b9;1d4bb,1d4bb;1d4bd,1d4c3;
1d4c5,1d4cf;1d4ea,1d503;1d51e,1d537;1d552,1d56b;1d586,1d59f;1d5ba,1d5d3;1d5ee,1d607;1d622,1d63b;
1d656,1d66f;1d68a,1d6a5;1d6c2,1d6da;1d6dc,1d6e1;1d6fc,1d714;1d716,1d71b;1d736,1d74e;1d750,1d755;
1d770,1d788;1d78a,1d78f;1d7aa,1d7c2;1d7c4,1d7c9;1d7cb,1d7cb;1df00,1df09;1df0b,1df1e;1df25,1df2a;
1e030,1e06d;1e922,1e943
"),
  (["numeric", "nu"], "
30,39;660,669;66b,66c;6f0,6f9;7c0,7c9;966,96f;9e6,9ef;a66,a6f;ae6,aef;b66,b6f;be6,bef;c66,c6f;ce
6,cef;d66,d6f;de6,def;e50,e59;ed0,ed9;f20,f29;1040,1049;1090,1099;17e0,17e9;1810,1819;1946,194f;
19d0,19d9;1a80,1a89;1a90,1a99;1b50,1b59;1bb0,1bb9;1c40,1c49;1c50,1c59;a620,a629;a8d0,a8d9;a900,a
909;a9d0,a9d9;a9f0,a9f9;aa50,aa59;abf0,abf9;ff10,ff19;104a0,104a9;10d30,10d39;10d40,10d49;11066,
1106f;110f0,110f9;11136,1113f;111d0,111d9;112f0,112f9;11450,11459;114d0,114d9;11650,11659;116c0,
116c9;116d0,116e3;11730,11739;118e0,118e9;11950,11959;11bf0,11bf9;11c50,11c59;11d50,11d59;11da0,
11da9;11f50,11f59;16130,16139;16a60,16a69;16ac0,16ac9;16b50,16b59;16d70,16d79;1ccf0,1ccf9;1d7ce,
1d7ff;1e140,1e149;1e2f0,1e2f9;1e4f0,1e4f9;1e5f1,1e5fa;1e950,1e959;1fbf0,1fbf9
"),
  (["oletter", "le"], "
1bb,1bb;1c0,1c3;294,294;2b9,2bf;2c6,2d1;2ec,2ec;2ee,2ee;374,374;559,559;5d0,5ea;5ef,5f3;620,64a;
66e,66f;671,6d3;6d5,6d5;6e5,6e6;6ee,6ef;6fa,6fc;6ff,6ff;710,710;712,72f;74d,7a5;7b1,7b1;7ca,7ea;
7f4,7f5;7fa,7fa;800,815;81a,81a;824,824;828,828;840,858;860,86a;870,887;889,88e;8a0,8c9;904,939;
93d,93d;950,950;958,961;971,980;985,98c;98f,990;993,9a8;9aa,9b0;9b2,9b2;9b6,9b9;9bd,9bd;9ce,9ce;
9dc,9dd;9df,9e1;9f0,9f1;9fc,9fc;a05,a0a;a0f,a10;a13,a28;a2a,a30;a32,a33;a35,a36;a38,a39;a59,a5c;
a5e,a5e;a72,a74;a85,a8d;a8f,a91;a93,aa8;aaa,ab0;ab2,ab3;ab5,ab9;abd,abd;ad0,ad0;ae0,ae1;af9,af9;
b05,b0c;b0f,b10;b13,b28;b2a,b30;b32,b33;b35,b39;b3d,b3d;b5c,b5d;b5f,b61;b71,b71;b83,b83;b85,b8a;
b8e,b90;b92,b95;b99,b9a;b9c,b9c;b9e,b9f;ba3,ba4;ba8,baa;bae,bb9;bd0,bd0;c05,c0c;c0e,c10;c12,c28;
c2a,c39;c3d,c3d;c58,c5a;c5d,c5d;c60,c61;c80,c80;c85,c8c;c8e,c90;c92,ca8;caa,cb3;cb5,cb9;cbd,cbd;
cdd,cde;ce0,ce1;cf1,cf2;d04,d0c;d0e,d10;d12,d3a;d3d,d3d;d4e,d4e;d54,d56;d5f,d61;d7a,d7f;d85,d96;
d9a,db1;db3,dbb;dbd,dbd;dc0,dc6;e01,e30;e32,e33;e40,e46;e81,e82;e84,e84;e86,e8a;e8c,ea3;ea5,ea5;
ea7,eb0;eb2,eb3;ebd,ebd;ec0,ec4;ec6,ec6;edc,edf;f00,f00;f40,f47;f49,f6c;f88,f8c;1000,102a;103f,1
03f;1050,1055;105a,105d;1061,1061;1065,1066;106e,1070;1075,1081;108e,108e;10d0,10fa;10fd,1248;12
4a,124d;1250,1256;1258,1258;125a,125d;1260,1288;128a,128d;1290,12b0;12b2,12b5;12b8,12be;12c0,12c
0;12c2,12c5;12c8,12d6;12d8,1310;1312,1315;1318,135a;1380,138f;1401,166c;166f,167f;1681,169a;16a0
,16ea;16ee,16f8;1700,1711;171f,1731;1740,1751;1760,176c;176e,1770;1780,17b3;17d7,17d7;17dc,17dc;
1820,1878;1880,1884;1887,18a8;18aa,18aa;18b0,18f5;1900,191e;1950,196d;1970,1974;1980,19ab;19b0,1
9c9;1a00,1a16;1a20,1a54;1aa7,1aa7;1b05,1b33;1b45,1b4c;1b83,1ba0;1bae,1baf;1bba,1be5;1c00,1c23;1c
4d,1c4f;1c5a,1c7d;1c90,1cba;1cbd,1cbf;1ce9,1cec;1cee,1cf3;1cf5,1cf6;1cfa,1cfa;2135,2138;2180,218
2;2185,2188;2d30,2d67;2d6f,2d6f;2d80,2d96;2da0,2da6;2da8,2dae;2db0,2db6;2db8,2dbe;2dc0,2dc6;2dc8
,2dce;2dd0,2dd6;2dd8,2dde;2e2f,2e2f;3005,3007;3021,3029;3031,3035;3038,303c;3041,3096;309d,309f;
30a1,30fa;30fc,30ff;3105,312f;3131,318e;31a0,31bf;31f0,31ff;3400,4dbf;4e00,a48c;a4d0,a4fd;a500,a
60c;a610,a61f;a62a,a62b;a66e,a66e;a67f,a67f;a6a0,a6ef;a717,a71f;a788,a788;a78f,a78f;a7f7,a7f7;a7
fb,a801;a803,a805;a807,a80a;a80c,a822;a840,a873;a882,a8b3;a8f2,a8f7;a8fb,a8fb;a8fd,a8fe;a90a,a92
5;a930,a946;a960,a97c;a984,a9b2;a9cf,a9cf;a9e0,a9e4;a9e6,a9ef;a9fa,a9fe;aa00,aa28;aa40,aa42;aa44
,aa4b;aa60,aa76;aa7a,aa7a;aa7e,aaaf;aab1,aab1;aab5,aab6;aab9,aabd;aac0,aac0;aac2,aac2;aadb,aadd;
aae0,aaea;aaf2,aaf4;ab01,ab06;ab09,ab0e;ab11,ab16;ab20,ab26;ab28,ab2e;abc0,abe2;ac00,d7a3;d7b0,d
7c6;d7cb,d7fb;f900,fa6d;fa70,fad9;fb1d,fb1d;fb1f,fb28;fb2a,fb36;fb38,fb3c;fb3e,fb3e;fb40,fb41;fb
43,fb44;fb46,fbb1;fbd3,fd3d;fd50,fd8f;fd92,fdc7;fdf0,fdfb;fe70,fe74;fe76,fefc;ff66,ff9d;ffa0,ffb
e;ffc2,ffc7;ffca,ffcf;ffd2,ffd7;ffda,ffdc;10000,1000b;1000d,10026;10028,1003a;1003c,1003d;1003f,
1004d;10050,1005d;10080,100fa;10140,10174;10280,1029c;102a0,102d0;10300,1031f;1032d,1034a;10350,
10375;10380,1039d;103a0,103c3;103c8,103cf;103d1,103d5;10450,1049d;10500,10527;10530,10563;105c0,
105f3;10600,10736;10740,10755;10760,10767;10781,10782;10800,10805;10808,10808;1080a,10835;10837,
10838;1083c,1083c;1083f,10855;10860,10876;10880,1089e;108e0,108f2;108f4,108f5;10900,10915;10920,
10939;10980,109b7;109be,109bf;10a00,10a00;10a10,10a13;10a15,10a17;10a19,10a35;10a60,10a7c;10a80,
10a9c;10ac0,10ac7;10ac9,10ae4;10b00,10b35;10b40,10b55;10b60,10b72;10b80,10b91;10c00,10c48;10d00,
10d23;10d4a,10d4f;10d6f,10d6f;10e80,10ea9;10eb0,10eb1;10ec2,10ec4;10f00,10f1c;10f27,10f27;10f30,
10f45;10f70,10f81;10fb0,10fc4;10fe0,10ff6;11003,11037;11071,11072;11075,11075;11083,110af;110d0,
110e8;11103,11126;11144,11144;11147,11147;11150,11172;11176,11176;11183,111b2;111c1,111c4;111da,
111da;111dc,111dc;11200,11211;11213,1122b;1123f,11240;11280,11286;11288,11288;1128a,1128d;1128f,
1129d;1129f,112a8;112b0,112de;11305,1130c;1130f,11310;11313,11328;1132a,11330;11332,11333;11335,
11339;1133d,1133d;11350,11350;1135d,11361;11380,11389;1138b,1138b;1138e,1138e;11390,113b5;113b7,
113b7;113d1,113d1;113d3,113d3;11400,11434;11447,1144a;1145f,11461;11480,114af;114c4,114c5;114c7,
114c7;11580,115ae;115d8,115db;11600,1162f;11644,11644;11680,116aa;116b8,116b8;11700,1171a;11740,
11746;11800,1182b;118ff,11906;11909,11909;1190c,11913;11915,11916;11918,1192f;1193f,1193f;11941,
11941;119a0,119a7;119aa,119d0;119e1,119e1;119e3,119e3;11a00,11a00;11a0b,11a32;11a3a,11a3a;11a50,
11a50;11a5c,11a89;11a9d,11a9d;11ab0,11af8;11bc0,11be0;11c00,11c08;11c0a,11c2e;11c40,11c40;11c72,
11c8f;11d00,11d06;11d08,11d09;11d0b,11d30;11d46,11d46;11d60,11d65;11d67,11d68;11d6a,11d89;11d98,
11d98;11ee0,11ef2;11f02,11f02;11f04,11f10;11f12,11f33;11fb0,11fb0;12000,12399;12400,1246e;12480,
12543;12f90,12ff0;13000,1342f;13441,13446;13460,143fa;14400,14646;16100,1611d;16800,16a38;16a40,
16a5e;16a70,16abe;16ad0,16aed;16b00,16b2f;16b40,16b43;16b63,16b77;16b7d,16b8f;16d40,16d6c;16f00,
16f4a;16f50,16f50;16f93,16f9f;16fe0,16fe1;16fe3,16fe3;17000,187f7;18800,18cd5;18d00,18d08;1aff0,
1aff3;1aff5,1affb;1affd,1affe;1b000,1b122;1b132,1b132;1b150,1b152;1b155,1b155;1b164,1b167;1b170,
1b2fb;1bc00,1bc6a;1bc70,1bc7c;1bc80,1bc88;1bc90,1bc99;1df0a,1df0a;1e100,1e12c;1e137,1e13d;1e14e,
1e14e;1e290,1e2ad;1e2c0,1e2eb;1e4d0,1e4eb;1e5d0,1e5ed;1e5f0,1e5f0;1e7e0,1e7e6;1e7e8,1e7eb;1e7ed,
1e7ee;1e7f0,1e7fe;1e800,1e8c4;1e94b,1e94b;1ee00,1ee03;1ee05,1ee1f;1ee21,1ee22;1ee24,1ee24;1ee27,
1ee27;1ee29,1ee32;1ee34,1ee37;1ee39,1ee39;1ee3b,1ee3b;1ee42,1ee42;1ee47,1ee47;1ee49,1ee49;1ee4b,
1ee4b;1ee4d,1ee4f;1ee51,1ee52;1ee54,1ee54;1ee57,1ee57;1ee59,1ee59;1ee5b,1ee5b;1ee5d,1ee5d;1ee5f,
1ee5f;1ee61,1ee62;1ee64,1ee64;1ee67,1ee6a;1ee6c,1ee72;1ee74,1ee77;1ee79,1ee7c;1ee7e,1ee7e;1ee80,
1ee89;1ee8b,1ee9b;1eea1,1eea3;1eea5,1eea9;1eeab,1eebb;20000,2a6df;2a700,2b739;2b740,2b81d;2b820,
2cea1;2ceb0,2ebe0;2ebf0,2ee5d;2f800,2fa1d;30000,3134a;31350,323af
"),
  (["scontinue", "sc"], "
2c,2d;3a,3a;55d,55d;60c,60d;7f8,7f8;1802,1802;1808,1808;2013,2014;3001,3001;fe10,fe11;fe13,fe13;
fe31,fe32;fe50,fe51;fe55,fe55;fe58,fe58;fe63,fe63;ff0c,ff0d;ff1a,ff1a;ff64,ff64
"),
  (["sterm", "st"], "
21,21;3f,3f;589,589;61d,61f;6d4,6d4;700,702;7f9,7f9;837,837;839,839;83d,83e;964,965;104a,104b;13
62,1362;1367,1368;166e,166e;1735,1736;1803,1803;1809,1809;1944,1945;1aa8,1aab;1b4e,1b4f;1b5a,1b5
b;1b5e,1b5f;1b7d,1b7f;1c3b,1c3c;1c7e,1c7f;203c,203d;2047,2049;2e2e,2e2e;2e3c,2e3c;2e53,2e54;3002
,3002;a4ff,a4ff;a60e,a60f;a6f3,a6f3;a6f7,a6f7;a876,a877;a8ce,a8cf;a92f,a92f;a9c8,a9c9;aa5d,aa5f;
aaf0,aaf1;abeb,abeb;fe56,fe57;ff01,ff01;ff1f,ff1f;ff61,ff61;10a56,10a57;10f55,10f59;10f86,10f89;
11047,11048;110be,110c1;11141,11143;111c5,111c6;111cd,111cd;111de,111df;11238,11239;1123b,1123c;
112a9,112a9;113d4,113d5;1144b,1144c;115c2,115c3;115c9,115d7;11641,11642;1173c,1173e;11944,11944;
11946,11946;11a42,11a43;11a9b,11a9c;11c41,11c42;11ef7,11ef8;11f43,11f44;16a6e,16a6f;16af5,16af5;
16b37,16b38;16b44,16b44;16d6e,16d6f;16e98,16e98;1bc9f,1bc9f;1da88,1da88
"),
  (["sep", "se"], "
85,85;2028,2029
"),
  (["sp"], "
9,9;b,c;20,20;a0,a0;1680,1680;2000,200a;202f,202f;205f,205f;3000,3000
"),
  (["upper", "up"], "
41,5a;c0,d6;d8,de;100,100;102,102;104,104;106,106;108,108;10a,10a;10c,10c;10e,10e;110,110;112,11
2;114,114;116,116;118,118;11a,11a;11c,11c;11e,11e;120,120;122,122;124,124;126,126;128,128;12a,12
a;12c,12c;12e,12e;130,130;132,132;134,134;136,136;139,139;13b,13b;13d,13d;13f,13f;141,141;143,14
3;145,145;147,147;14a,14a;14c,14c;14e,14e;150,150;152,152;154,154;156,156;158,158;15a,15a;15c,15
c;15e,15e;160,160;162,162;164,164;166,166;168,168;16a,16a;16c,16c;16e,16e;170,170;172,172;174,17
4;176,176;178,179;17b,17b;17d,17d;181,182;184,184;186,187;189,18b;18e,191;193,194;196,198;19c,19
d;19f,1a0;1a2,1a2;1a4,1a4;1a6,1a7;1a9,1a9;1ac,1ac;1ae,1af;1b1,1b3;1b5,1b5;1b7,1b8;1bc,1bc;1c4,1c
5;1c7,1c8;1ca,1cb;1cd,1cd;1cf,1cf;1d1,1d1;1d3,1d3;1d5,1d5;1d7,1d7;1d9,1d9;1db,1db;1de,1de;1e0,1e
0;1e2,1e2;1e4,1e4;1e6,1e6;1e8,1e8;1ea,1ea;1ec,1ec;1ee,1ee;1f1,1f2;1f4,1f4;1f6,1f8;1fa,1fa;1fc,1f
c;1fe,1fe;200,200;202,202;204,204;206,206;208,208;20a,20a;20c,20c;20e,20e;210,210;212,212;214,21
4;216,216;218,218;21a,21a;21c,21c;21e,21e;220,220;222,222;224,224;226,226;228,228;22a,22a;22c,22
c;22e,22e;230,230;232,232;23a,23b;23d,23e;241,241;243,246;248,248;24a,24a;24c,24c;24e,24e;370,37
0;372,372;376,376;37f,37f;386,386;388,38a;38c,38c;38e,38f;391,3a1;3a3,3ab;3cf,3cf;3d2,3d4;3d8,3d
8;3da,3da;3dc,3dc;3de,3de;3e0,3e0;3e2,3e2;3e4,3e4;3e6,3e6;3e8,3e8;3ea,3ea;3ec,3ec;3ee,3ee;3f4,3f
4;3f7,3f7;3f9,3fa;3fd,42f;460,460;462,462;464,464;466,466;468,468;46a,46a;46c,46c;46e,46e;470,47
0;472,472;474,474;476,476;478,478;47a,47a;47c,47c;47e,47e;480,480;48a,48a;48c,48c;48e,48e;490,49
0;492,492;494,494;496,496;498,498;49a,49a;49c,49c;49e,49e;4a0,4a0;4a2,4a2;4a4,4a4;4a6,4a6;4a8,4a
8;4aa,4aa;4ac,4ac;4ae,4ae;4b0,4b0;4b2,4b2;4b4,4b4;4b6,4b6;4b8,4b8;4ba,4ba;4bc,4bc;4be,4be;4c0,4c
1;4c3,4c3;4c5,4c5;4c7,4c7;4c9,4c9;4cb,4cb;4cd,4cd;4d0,4d0;4d2,4d2;4d4,4d4;4d6,4d6;4d8,4d8;4da,4d
a;4dc,4dc;4de,4de;4e0,4e0;4e2,4e2;4e4,4e4;4e6,4e6;4e8,4e8;4ea,4ea;4ec,4ec;4ee,4ee;4f0,4f0;4f2,4f
2;4f4,4f4;4f6,4f6;4f8,4f8;4fa,4fa;4fc,4fc;4fe,4fe;500,500;502,502;504,504;506,506;508,508;50a,50
a;50c,50c;50e,50e;510,510;512,512;514,514;516,516;518,518;51a,51a;51c,51c;51e,51e;520,520;522,52
2;524,524;526,526;528,528;52a,52a;52c,52c;52e,52e;531,556;10a0,10c5;10c7,10c7;10cd,10cd;13a0,13f
5;1c89,1c89;1e00,1e00;1e02,1e02;1e04,1e04;1e06,1e06;1e08,1e08;1e0a,1e0a;1e0c,1e0c;1e0e,1e0e;1e10
,1e10;1e12,1e12;1e14,1e14;1e16,1e16;1e18,1e18;1e1a,1e1a;1e1c,1e1c;1e1e,1e1e;1e20,1e20;1e22,1e22;
1e24,1e24;1e26,1e26;1e28,1e28;1e2a,1e2a;1e2c,1e2c;1e2e,1e2e;1e30,1e30;1e32,1e32;1e34,1e34;1e36,1
e36;1e38,1e38;1e3a,1e3a;1e3c,1e3c;1e3e,1e3e;1e40,1e40;1e42,1e42;1e44,1e44;1e46,1e46;1e48,1e48;1e
4a,1e4a;1e4c,1e4c;1e4e,1e4e;1e50,1e50;1e52,1e52;1e54,1e54;1e56,1e56;1e58,1e58;1e5a,1e5a;1e5c,1e5
c;1e5e,1e5e;1e60,1e60;1e62,1e62;1e64,1e64;1e66,1e66;1e68,1e68;1e6a,1e6a;1e6c,1e6c;1e6e,1e6e;1e70
,1e70;1e72,1e72;1e74,1e74;1e76,1e76;1e78,1e78;1e7a,1e7a;1e7c,1e7c;1e7e,1e7e;1e80,1e80;1e82,1e82;
1e84,1e84;1e86,1e86;1e88,1e88;1e8a,1e8a;1e8c,1e8c;1e8e,1e8e;1e90,1e90;1e92,1e92;1e94,1e94;1e9e,1
e9e;1ea0,1ea0;1ea2,1ea2;1ea4,1ea4;1ea6,1ea6;1ea8,1ea8;1eaa,1eaa;1eac,1eac;1eae,1eae;1eb0,1eb0;1e
b2,1eb2;1eb4,1eb4;1eb6,1eb6;1eb8,1eb8;1eba,1eba;1ebc,1ebc;1ebe,1ebe;1ec0,1ec0;1ec2,1ec2;1ec4,1ec
4;1ec6,1ec6;1ec8,1ec8;1eca,1eca;1ecc,1ecc;1ece,1ece;1ed0,1ed0;1ed2,1ed2;1ed4,1ed4;1ed6,1ed6;1ed8
,1ed8;1eda,1eda;1edc,1edc;1ede,1ede;1ee0,1ee0;1ee2,1ee2;1ee4,1ee4;1ee6,1ee6;1ee8,1ee8;1eea,1eea;
1eec,1eec;1eee,1eee;1ef0,1ef0;1ef2,1ef2;1ef4,1ef4;1ef6,1ef6;1ef8,1ef8;1efa,1efa;1efc,1efc;1efe,1
efe;1f08,1f0f;1f18,1f1d;1f28,1f2f;1f38,1f3f;1f48,1f4d;1f59,1f59;1f5b,1f5b;1f5d,1f5d;1f5f,1f5f;1f
68,1f6f;1f88,1f8f;1f98,1f9f;1fa8,1faf;1fb8,1fbc;1fc8,1fcc;1fd8,1fdb;1fe8,1fec;1ff8,1ffc;2102,210
2;2107,2107;210b,210d;2110,2112;2115,2115;2119,211d;2124,2124;2126,2126;2128,2128;212a,212d;2130
,2133;213e,213f;2145,2145;2160,216f;2183,2183;24b6,24cf;2c00,2c2f;2c60,2c60;2c62,2c64;2c67,2c67;
2c69,2c69;2c6b,2c6b;2c6d,2c70;2c72,2c72;2c75,2c75;2c7e,2c80;2c82,2c82;2c84,2c84;2c86,2c86;2c88,2
c88;2c8a,2c8a;2c8c,2c8c;2c8e,2c8e;2c90,2c90;2c92,2c92;2c94,2c94;2c96,2c96;2c98,2c98;2c9a,2c9a;2c
9c,2c9c;2c9e,2c9e;2ca0,2ca0;2ca2,2ca2;2ca4,2ca4;2ca6,2ca6;2ca8,2ca8;2caa,2caa;2cac,2cac;2cae,2ca
e;2cb0,2cb0;2cb2,2cb2;2cb4,2cb4;2cb6,2cb6;2cb8,2cb8;2cba,2cba;2cbc,2cbc;2cbe,2cbe;2cc0,2cc0;2cc2
,2cc2;2cc4,2cc4;2cc6,2cc6;2cc8,2cc8;2cca,2cca;2ccc,2ccc;2cce,2cce;2cd0,2cd0;2cd2,2cd2;2cd4,2cd4;
2cd6,2cd6;2cd8,2cd8;2cda,2cda;2cdc,2cdc;2cde,2cde;2ce0,2ce0;2ce2,2ce2;2ceb,2ceb;2ced,2ced;2cf2,2
cf2;a640,a640;a642,a642;a644,a644;a646,a646;a648,a648;a64a,a64a;a64c,a64c;a64e,a64e;a650,a650;a6
52,a652;a654,a654;a656,a656;a658,a658;a65a,a65a;a65c,a65c;a65e,a65e;a660,a660;a662,a662;a664,a66
4;a666,a666;a668,a668;a66a,a66a;a66c,a66c;a680,a680;a682,a682;a684,a684;a686,a686;a688,a688;a68a
,a68a;a68c,a68c;a68e,a68e;a690,a690;a692,a692;a694,a694;a696,a696;a698,a698;a69a,a69a;a722,a722;
a724,a724;a726,a726;a728,a728;a72a,a72a;a72c,a72c;a72e,a72e;a732,a732;a734,a734;a736,a736;a738,a
738;a73a,a73a;a73c,a73c;a73e,a73e;a740,a740;a742,a742;a744,a744;a746,a746;a748,a748;a74a,a74a;a7
4c,a74c;a74e,a74e;a750,a750;a752,a752;a754,a754;a756,a756;a758,a758;a75a,a75a;a75c,a75c;a75e,a75
e;a760,a760;a762,a762;a764,a764;a766,a766;a768,a768;a76a,a76a;a76c,a76c;a76e,a76e;a779,a779;a77b
,a77b;a77d,a77e;a780,a780;a782,a782;a784,a784;a786,a786;a78b,a78b;a78d,a78d;a790,a790;a792,a792;
a796,a796;a798,a798;a79a,a79a;a79c,a79c;a79e,a79e;a7a0,a7a0;a7a2,a7a2;a7a4,a7a4;a7a6,a7a6;a7a8,a
7a8;a7aa,a7ae;a7b0,a7b4;a7b6,a7b6;a7b8,a7b8;a7ba,a7ba;a7bc,a7bc;a7be,a7be;a7c0,a7c0;a7c2,a7c2;a7
c4,a7c7;a7c9,a7c9;a7cb,a7cc;a7d0,a7d0;a7d6,a7d6;a7d8,a7d8;a7da,a7da;a7dc,a7dc;a7f5,a7f5;ff21,ff3
a;10400,10427;104b0,104d3;10570,1057a;1057c,1058a;1058c,10592;10594,10595;10c80,10cb2;10d50,10d6
5;118a0,118bf;16e40,16e5f;1d400,1d419;1d434,1d44d;1d468,1d481;1d49c,1d49c;1d49e,1d49f;1d4a2,1d4a
2;1d4a5,1d4a6;1d4a9,1d4ac;1d4ae,1d4b5;1d4d0,1d4e9;1d504,1d505;1d507,1d50a;1d50d,1d514;1d516,1d51
c;1d538,1d539;1d53b,1d53e;1d540,1d544;1d546,1d546;1d54a,1d550;1d56c,1d585;1d5a0,1d5b9;1d5d4,1d5e
d;1d608,1d621;1d63c,1d655;1d670,1d689;1d6a8,1d6c0;1d6e2,1d6fa;1d71c,1d734;1d756,1d76e;1d790,1d7a
8;1d7ca,1d7ca;1e900,1e921;1f130,1f149;1f150,1f169;1f170,1f189
")
]

/-- The versions of Unicode in order, each with its loose aliases and the ranges
`first,last` of the code points it assigned. -/
def ageData : List (List String × String) := [
  (["v11", "1.1"], "
0,1f5;1fa,217;250,2a8;2b0,2de;2e0,2e9;300,345;360,361;374,375;37a,37a;37e,37e;384,38a;38c,38c;38
e,3a1;3a3,3ce;3d0,3d6;3da,3da;3dc,3dc;3de,3de;3e0,3e0;3e2,3f3;401,40c;40e,44f;451,45c;45e,486;49
0,4c4;4c7,4c8;4cb,4cc;4d0,4eb;4ee,4f5;4f8,4f9;531,556;559,55f;561,587;589,589;5b0,5b9;5bb,5c3;5d
0,5ea;5f0,5f4;60c,60c;61b,61b;61f,61f;621,63a;640,652;660,66d;670,6b7;6ba,6be;6c0,6ce;6d0,6ed;6f
0,6f9;901,903;905,939;93c,94d;950,954;958,970;981,983;985,98c;98f,990;993,9a8;9aa,9b0;9b2,9b2;9b
6,9b9;9bc,9bc;9be,9c4;9c7,9c8;9cb,9cd;9d7,9d7;9dc,9dd;9df,9e3;9e6,9fa;a02,a02;a05,a0a;a0f,a10;a1
3,a28;a2a,a30;a32,a33;a35,a36;a38,a39;a3c,a3c;a3e,a42;a47,a48;a4b,a4d;a59,a5c;a5e,a5e;a66,a74;a8
1,a83;a85,a8b;a8d,a8d;a8f,a91;a93,aa8;aaa,ab0;ab2,ab3;ab5,ab9;abc,ac5;ac7,ac9;acb,acd;ad0,ad0;ae
0,ae0;ae6,aef;b01,b03;b05,b0c;b0f,b10;b13,b28;b2a,b30;b32,b33;b36,b39;b3c,b43;b47,b48;b4b,b4d;b5
6,b57;b5c,b5d;b5f,b61;b66,b70;b82,b83;b85,b8a;b8e,b90;b92,b95;b99,b9a;b9c,b9c;b9e,b9f;ba3,ba4;ba
8,baa;bae,bb5;bb7,bb9;bbe,bc2;bc6,bc8;bca,bcd;bd7,bd7;be7,bf2;c01,c03;c05,c0c;c0e,c10;c12,c28;c2
a,c33;c35,c39;c3e,c44;c46,c48;c4a,c4d;c55,c56;c60,c61;c66,c6f;c82,c83;c85,c8c;c8e,c90;c92,ca8;ca
a,cb3;cb5,cb9;cbe,cc4;cc6,cc8;cca,ccd;cd5,cd6;cde,cde;ce0,ce1;ce6,cef;d02,d03;d05,d0c;d0e,d10;d1
2,d28;d2a,d39;d3e,d43;d46,d48;d4a,d4d;d57,d57;d60,d61;d66,d6f;e01,e3a;e3f,e5b;e81,e82;e84,e84;e8
7,e88;e8a,e8a;e8d,e8d;e94,e97;e99,e9f;ea1,ea3;ea5,ea5;ea7,ea7;eaa,eab;ead,eb9;ebb,ebd;ec0,ec4;ec
6,ec6;ec8,ecd;ed0,ed9;edc,edd;10a0,10c5;10d0,10f6;10fb,10fb;1100,1159;115f,11a2;11a8,11f9;1e00,1
e9a;1ea0,1ef9;1f00,1f15;1f18,1f1d;1f20,1f45;1f48,1f4d;1f50,1f57;1f59,1f59;1f5b,1f5b;1f5d,1f5d;1f
5f,1f7d;1f80,1fb4;1fb6,1fc4;1fc6,1fd3;1fd6,1fdb;1fdd,1fef;1ff2,1ff4;1ff6,1ffe;2000,202e;2030,204
6;206a,2070;2074,208e;20a0,20aa;20d0,20e1;2100,2138;2153,2182;2190,21ea;2200,22f1;2300,2300;2302
,237a;2400,2424;2440,244a;2460,24ea;2500,2595;25a0,25ef;2600,2613;261a,266f;2701,2704;2706,2709;
270c,2727;2729,274b;274d,274d;274f,2752;2756,2756;2758,275e;2761,2767;2776,2794;2798,27af;27b1,2
7be;3000,3037;303f,303f;3041,3094;3099,309e;30a1,30fe;3105,312c;3131,318e;3190,319f;3200,321c;32
20,3243;3260,327b;327f,32b0;32c0,32cb;32d0,32fe;3300,3376;337b,33dd;33e0,33fe;4e00,9fa5;e000,fa2
d;fb00,fb06;fb13,fb17;fb1e,fb36;fb38,fb3c;fb3e,fb3e;fb40,fb41;fb43,fb44;fb46,fbb1;fbd3,fd3f;fd50
,fd8f;fd92,fdc7;fdf0,fdfb;fe20,fe23;fe30,fe44;fe49,fe52;fe54,fe66;fe68,fe6b;fe70,fe72;fe74,fe74;
fe76,fefc;feff,feff;ff01,ff5e;ff61,ffbe;ffc2,ffc7;ffca,ffcf;ffd2,ffd7;ffda,ffdc;ffe0,ffe6;ffe8,f
fee;fffd,ffff
"),
  (["v20", "2.0"], "
591,5a1;5a3,5af;5c4,5c4;f00,f47;f49,f69;f71,f8b;f90,f95;f97,f97;f99,fad;fb1,fb7;fb9,fb9;1e9b,1e9
b;20ab,20ab;ac00,d7a3;d800,dfff;1fffe,1ffff;2fffe,2ffff;3fffe,3ffff;4fffe,4ffff;5fffe,5ffff;6fff
e,6ffff;7fffe,7ffff;8fffe,8ffff;9fffe,9ffff;afffe,affff;bfffe,bffff;cfffe,cffff;dfffe,dffff;efff
e,10ffff
"),
  (["v21", "2.1"], "
20ac,20ac;fffc,fffc
"),
  (["v30", "3.0"], "
1f6,1f9;218,21f;222,233;2a9,2ad;2df,2df;2ea,2ee;346,34e;362,362;3d7,3d7;3db,3db;3dd,3dd;3df,3df;
3e1,3e1;400,400;40d,40d;450,450;45d,45d;488,489;48c,48f;4ec,4ed;58a,58a;653,655;6b8,6b9;6bf,6bf;
6cf,6cf;6fa,6fe;700,70d;70f,72c;730,74a;780,7b0;d82,d83;d85,d96;d9a,db1;db3,dbb;dbd,dbd;dc0,dc6;
dca,dca;dcf,dd4;dd6,dd6;dd8,ddf;df2,df4;f6a,f6a;f96,f96;fae,fb0;fb8,fb8;fba,fbc;fbe,fcc;fcf,fcf;
1000,1021;1023,1027;1029,102a;102c,1032;1036,1039;1040,1059;1200,1206;1208,1246;1248,1248;124a,1
24d;1250,1256;1258,1258;125a,125d;1260,1286;1288,1288;128a,128d;1290,12ae;12b0,12b0;12b2,12b5;12
b8,12be;12c0,12c0;12c2,12c5;12c8,12ce;12d0,12d6;12d8,12ee;12f0,130e;1310,1310;1312,1315;1318,131
e;1320,1346;1348,135a;1361,137c;13a0,13f4;1401,1676;1680,169c;16a0,16f0;1780,17dc;17e0,17e9;1800
,180e;1810,1819;1820,1877;1880,18a9;202f,202f;2048,204d;20ad,20af;20e2,20e3;2139,213a;2183,2183;
21eb,21f3;2301,2301;237b,237b;237d,239a;2425,2426;25f0,25f7;2619,2619;2670,2671;2800,28ff;2e80,2
e99;2e9b,2ef3;2f00,2fd5;2ff0,2ffb;3038,303a;303e,303e;31a0,31b7;3400,4db5;a000,a48c;a490,a4a1;a4
a4,a4b3;a4b5,a4c0;a4c2,a4c4;a4c6,a4c6;fb1d,fb1d;fff9,fffb
"),
  (["v31", "3.1"], "
3f4,3f5;fdd0,fdef;10300,1031e;10320,10323;10330,1034a;10400,10425;10428,1044d;1d000,1d0f5;1d100,
1d126;1d12a,1d1dd;1d400,1d454;1d456,1d49c;1d49e,1d49f;1d4a2,1d4a2;1d4a5,1d4a6;1d4a9,1d4ac;1d4ae,
1d4b9;1d4bb,1d4bb;1d4bd,1d4c0;1d4c2,1d4c3;1d4c5,1d505;1d507,1d50a;1d50d,1d514;1d516,1d51c;1d51e,
1d539;1d53b,1d53e;1d540,1d544;1d546,1d546;1d54a,1d550;1d552,1d6a3;1d6a8,1d7c9;1d7ce,1d7ff;20000,
2a6d6;2f800,2fa1d;e0001,e0001;e0020,e007f
"),
  (["v32", "3.2"], "
220,220;34f,34f;363,36f;3d8,3d9;3f6,3f6;48a,48b;4c5,4c6;4c9,4ca;4cd,4ce;500,50f;66e,66f;7b1,7b1;
10f7,10f8;1700,170c;170e,1714;1720,1736;1740,1753;1760,176c;176e,1770;1772,1773;2047,2047;204e,2
052;2057,2057;205f,2063;2071,2071;20b0,20b1;20e4,20ea;213d,214b;21f4,21ff;22f2,22ff;237c,237c;23
9b,23ce;24eb,24fe;2596,259f;25f8,25ff;2616,2617;2672,267d;2680,2689;2768,2775;27d0,27eb;27f0,27f
f;2900,2aff;303b,303d;3095,3096;309f,30a0;30ff,30ff;31f0,31ff;3251,325f;32b1,32bf;a4a2,a4a3;a4b4
,a4b4;a4c1,a4c1;a4c5,a4c5;fa30,fa6a;fdfc,fdfc;fe00,fe0f;fe45,fe46;fe73,fe73;ff5f,ff60
"),
  (["v40", "4.0"], "
221,221;234,236;2ae,2af;2ef,2ff;350,357;35d,35f;3f7,3fb;600,603;60d,615;656,658;6ee,6ef;6ff,6ff;
72d,72f;74d,74f;904,904;9bd,9bd;a01,a01;a03,a03;a8c,a8c;ae1,ae3;af1,af1;b35,b35;b71,b71;bf3,bfa;
cbc,cbd;17dd,17dd;17f0,17f9;1900,191c;1920,192b;1930,193b;1940,1940;1944,196d;1970,1974;19e0,19f
f;1d00,1d6b;2053,2054;213b,213b;23cf,23d0;24ff,24ff;2614,2615;268a,2691;26a0,26a1;2b00,2b0d;321d
,321e;3250,3250;327c,327d;32cc,32cf;3377,337a;33de,33df;33ff,33ff;4dc0,4dff;fdfd,fdfd;fe47,fe48;
10000,1000b;1000d,10026;10028,1003a;1003c,1003d;1003f,1004d;10050,1005d;10080,100fa;10100,10102;
10107,10133;10137,1013f;10380,1039d;1039f,1039f;10426,10427;1044e,1049d;104a0,104a9;10800,10805;
10808,10808;1080a,10835;10837,10838;1083c,1083c;1083f,1083f;1d300,1d356;1d4c1,1d4c1;e0100,e01ef
"),
  (["v41", "4.1"], "
237,241;358,35c;3fc,3ff;4f6,4f7;5a2,5a2;5c5,5c7;60b,60b;61e,61e;659,65e;750,76d;97d,97d;9ce,9ce;
bb6,bb6;be6,be6;fd0,fd1;10f9,10fa;10fc,10fc;1207,1207;1247,1247;1287,1287;12af,12af;12cf,12cf;12
ef,12ef;130f,130f;131f,131f;1347,1347;135f,1360;1380,1399;1980,19a9;19b0,19c9;19d0,19d9;19de,19d
f;1a00,1a1b;1a1e,1a1f;1d6c,1dc3;2055,2056;2058,205e;2090,2094;20b2,20b5;20eb,20eb;213c,213c;214c
,214c;23d1,23db;2618,2618;267e,267f;2692,269c;26a2,26b1;27c0,27c6;2b0e,2b13;2c00,2c2e;2c30,2c5e;
2c80,2cea;2cf9,2d25;2d30,2d65;2d6f,2d6f;2d80,2d96;2da0,2da6;2da8,2dae;2db0,2db6;2db8,2dbe;2dc0,2
dc6;2dc8,2dce;2dd0,2dd6;2dd8,2dde;2e00,2e17;2e1c,2e1d;31c0,31cf;327e,327e;9fa6,9fbb;a700,a716;a8
00,a82b;fa70,fad9;fe10,fe19;10140,1018a;103a0,103c3;103c8,103d5;10a00,10a03;10a05,10a06;10a0c,10
a13;10a15,10a17;10a19,10a33;10a38,10a3a;10a3f,10a47;10a50,10a58;1d200,1d245;1d6a4,1d6a5
"),
  (["v50", "5.0"], "
242,24f;37b,37d;4cf,4cf;4fa,4ff;510,513;5ba,5ba;7c0,7fa;97b,97c;97e,97f;ce2,ce3;cf1,cf2;1b00,1b4
b;1b50,1b7c;1dc4,1dca;1dfe,1dff;20ec,20ef;214d,214e;2184,2184;23dc,23e7;26b2,26b2;27c7,27ca;2b14
,2b1a;2b20,2b23;2c60,2c6c;2c74,2c77;a717,a71a;a720,a721;a840,a877;10900,10919;1091f,1091f;12000,
1236e;12400,12462;12470,12473;1d360,1d371;1d7ca,1d7cb
"),
  (["v51", "5.1"], "
370,373;376,377;3cf,3cf;487,487;514,523;606,60a;616,61a;63b,63f;76e,77f;971,972;a51,a51;a75,a75;
b44,b44;b62,b63;bd0,bd0;c3d,c3d;c58,c59;c62,c63;c78,c7f;d3d,d3d;d44,d44;d62,d63;d70,d75;d79,d7f;
f6b,f6c;fce,fce;fd2,fd4;1022,1022;1028,1028;102b,102b;1033,1035;103a,103f;105a,1099;109e,109f;18
aa,18aa;1b80,1baa;1bae,1bb9;1c00,1c37;1c3b,1c49;1c4d,1c7f;1dcb,1de6;1e9c,1e9f;1efa,1eff;2064,206
4;20f0,20f0;214f,214f;2185,2188;269d,269d;26b3,26bc;26c0,26c3;27cc,27cc;27ec,27ef;2b1b,2b1f;2b24
,2b4c;2b50,2b54;2c6d,2c6f;2c71,2c73;2c78,2c7d;2de0,2dff;2e18,2e1b;2e1e,2e30;312d,312d;31d0,31e3;
9fbc,9fc3;a500,a62b;a640,a65f;a662,a673;a67c,a697;a71b,a71f;a722,a78c;a7fb,a7ff;a880,a8c4;a8ce,a
8d9;a900,a953;a95f,a95f;aa00,aa36;aa40,aa4d;aa50,aa59;aa5c,aa5f;fe24,fe26;10190,1019b;101d0,101f
d;10280,1029c;102a0,102d0;10920,10939;1093f,1093f;1d129,1d129;1f000,1f02b;1f030,1f093
"),
  (["v52", "5.2"], "
524,525;800,82d;830,83e;900,900;94e,94e;955,955;979,97a;9fb,9fb;fd5,fd8;109a,109d;115a,115e;11a3
,11a7;11fa,11ff;1400,1400;1677,167f;18b0,18f5;19aa,19ab;19da,19da;1a20,1a5e;1a60,1a7c;1a7f,1a89;
1a90,1a99;1aa0,1aad;1cd0,1cf2;1dfd,1dfd;20b6,20b8;2150,2152;2189,2189;23e8,23e8;269e,269f;26bd,2
6bf;26c4,26cd;26cf,26e1;26e3,26e3;26e8,26ff;2757,2757;2b55,2b59;2c70,2c70;2c7e,2c7f;2ceb,2cf1;2e
31,2e31;3244,324f;9fc4,9fcb;a4d0,a4ff;a6a0,a6f7;a830,a839;a8e0,a8fb;a960,a97c;a980,a9cd;a9cf,a9d
9;a9de,a9df;aa60,aa7b;aa80,aac2;aadb,aadf;abc0,abed;abf0,abf9;d7b0,d7c6;d7cb,d7fb;fa6b,fa6d;1084
0,10855;10857,1085f;1091a,1091b;10a60,10a7f;10b00,10b35;10b39,10b55;10b58,10b72;10b78,10b7f;10c0
0,10c48;10e60,10e7e;11080,110c1;13000,1342e;1f100,1f10a;1f110,1f12e;1f131,1f131;1f13d,1f13d;1f13
f,1f13f;1f142,1f142;1f146,1f146;1f14a,1f14e;1f157,1f157;1f15f,1f15f;1f179,1f179;1f17b,1f17c;1f17
f,1f17f;1f18a,1f18d;1f190,1f190;1f200,1f200;1f210,1f231;1f240,1f248;2a700,2b734
"),
  (["v60", "6.0"], "
526,527;620,620;65f,65f;840,85b;85e,85e;93a,93b;94f,94f;956,957;973,977;b72,b77;d29,d29;d3a,d3a;
d4e,d4e;f8c,f8f;fd9,fda;135d,135e;1bc0,1bf3;1bfc,1bff;1dfc,1dfc;2095,209c;20b9,20b9;23e9,23f3;26
ce,26ce;26e2,26e2;26e4,26e7;2705,2705;270a,270b;2728,2728;274c,274c;274e,274e;2753,2755;275f,276
0;2795,2797;27b0,27b0;27bf,27bf;27ce,27cf;2d70,2d70;2d7f,2d7f;31b8,31ba;a660,a661;a78d,a78e;a790
,a791;a7a0,a7a9;a7fa,a7fa;ab01,ab06;ab09,ab0e;ab11,ab16;ab20,ab26;ab28,ab2e;fbb2,fbc1;11000,1104
d;11052,1106f;16800,16a38;1b000,1b001;1f0a0,1f0ae;1f0b1,1f0be;1f0c1,1f0cf;1f0d1,1f0df;1f130,1f13
0;1f132,1f13c;1f13e,1f13e;1f140,1f141;1f143,1f145;1f147,1f149;1f14f,1f156;1f158,1f15e;1f160,1f16
9;1f170,1f178;1f17a,1f17a;1f17d,1f17e;1f180,1f189;1f18e,1f18f;1f191,1f19a;1f1e6,1f1ff;1f201,1f20
2;1f232,1f23a;1f250,1f251;1f300,1f320;1f330,1f335;1f337,1f37c;1f380,1f393;1f3a0,1f3c4;1f3c6,1f3c
a;1f3e0,1f3f0;1f400,1f43e;1f440,1f440;1f442,1f4f7;1f4f9,1f4fc;1f500,1f53d;1f550,1f567;1f5fb,1f5f
f;1f601,1f610;1f612,1f614;1f616,1f616;1f618,1f618;1f61a,1f61a;1f61c,1f61e;1f620,1f625;1f628,1f62
b;1f62d,1f62d;1f630,1f633;1f635,1f640;1f645,1f64f;1f680,1f6c5;1f700,1f773;2b740,2b81d
"),
  (["v61", "6.1"], "
58f,58f;604,604;8a0,8a0;8a2,8ac;8e4,8fe;af0,af0;ede,edf;10c7,10c7;10cd,10cd;10fd,10ff;1bab,1bad;
1bba,1bbf;1cc0,1cc7;1cf3,1cf6;27cb,27cb;27cd,27cd;2cf2,2cf3;2d27,2d27;2d2d,2d2d;2d66,2d67;2e32,2
e3b;9fcc,9fcc;a674,a67b;a69f,a69f;a792,a793;a7aa,a7aa;a7f8,a7f9;aae0,aaf6;fa2e,fa2f;10980,109b7;
109be,109bf;110d0,110e8;110f0,110f9;11100,11134;11136,11143;11180,111c8;111d0,111d9;11680,116b7;
116c0,116c9;16f00,16f44;16f50,16f7e;16f8f,16f9f;1ee00,1ee03;1ee05,1ee1f;1ee21,1ee22;1ee24,1ee24;
1ee27,1ee27;1ee29,1ee32;1ee34,1ee37;1ee39,1ee39;1ee3b,1ee3b;1ee42,1ee42;1ee47,1ee47;1ee49,1ee49;
1ee4b,1ee4b;1ee4d,1ee4f;1ee51,1ee52;1ee54,1ee54;1ee57,1ee57;1ee59,1ee59;1ee5b,1ee5b;1ee5d,1ee5d;
1ee5f,1ee5f;1ee61,1ee62;1ee64,1ee64;1ee67,1ee6a;1ee6c,1ee72;1ee74,1ee77;1ee79,1ee7c;1ee7e,1ee7e;
1ee80,1ee89;1ee8b,1ee9b;1eea1,1eea3;1eea5,1eea9;1eeab,1eebb;1eef0,1eef1;1f16a,1f16b;1f540,1f543;
1f600,1f600;1f611,1f611;1f615,1f615;1f617,1f617;1f619,1f619;1f61b,1f61b;1f61f,1f61f;1f626,1f627;
1f62c,1f62c;1f62e,1f62f;1f634,1f634
"),
  (["v62", "6.2"], "
20ba,20ba
"),
  (["v63", "6.3"], "
61c,61c;2066,2069
"),
  (["v70", "7.0"], "
37f,37f;528,52f;58d,58e;605,605;8a1,8a1;8ad,8b2;8ff,8ff;978,978;980,980;c00,c00;c34,c34;c81,c81;
d01,d01;de6,def;16f1,16f8;191d,191e;1ab0,1abe;1cf8,1cf9;1de7,1df5;20bb,20bd;23f4,23fa;2700,2700;
2b4d,2b4f;2b5a,2b73;2b76,2b95;2b98,2bb9;2bbd,2bc8;2bca,2bd1;2e3c,2e42;a698,a69d;a794,a79f;a7ab,a
7ad;a7b0,a7b1;a7f7,a7f7;a9e0,a9fe;aa7c,aa7f;ab30,ab5f;ab64,ab65;fe27,fe2d;1018b,1018c;101a0,101a
0;102e0,102fb;1031f,1031f;10350,1037a;10500,10527;10530,10563;1056f,1056f;10600,10736;10740,1075
5;10760,10767;10860,1089e;108a7,108af;10a80,10a9f;10ac0,10ae6;10aeb,10af6;10b80,10b91;10b99,10b9
c;10ba9,10baf;1107f,1107f;11150,11176;111cd,111cd;111da,111da;111e1,111f4;11200,11211;11213,1123
d;112b0,112ea;112f0,112f9;11301,11303;11305,1130c;1130f,11310;11313,11328;1132a,11330;11332,1133
3;11335,11339;1133c,11344;11347,11348;1134b,1134d;11357,11357;1135d,11363;11366,1136c;11370,1137
4;11480,114c7;114d0,114d9;11580,115b5;115b8,115c9;11600,11644;11650,11659;118a0,118f2;118ff,118f
f;11ac0,11af8;1236f,12398;12463,1246e;12474,12474;16a40,16a5e;16a60,16a69;16a6e,16a6f;16ad0,16ae
d;16af0,16af5;16b00,16b45;16b50,16b59;16b5b,16b61;16b63,16b77;16b7d,16b8f;1bc00,1bc6a;1bc70,1bc7
c;1bc80,1bc88;1bc90,1bc99;1bc9c,1bca3;1e800,1e8c4;1e8c7,1e8d6;1f0bf,1f0bf;1f0e0,1f0f5;1f10b,1f10
c;1f321,1f32c;1f336,1f336;1f37d,1f37d;1f394,1f39f;1f3c5,1f3c5;1f3cb,1f3ce;1f3d4,1f3df;1f3f1,1f3f
7;1f43f,1f43f;1f441,1f441;1f4f8,1f4f8;1f4fd,1f4fe;1f53e,1f53f;1f544,1f54a;1f568,1f579;1f57b,1f5a
3;1f5a5,1f5fa;1f641,1f642;1f650,1f67f;1f6c6,1f6cf;1f6e0,1f6ec;1f6f0,1f6f3;1f780,1f7d4;1f800,1f80
b;1f810,1f847;1f850,1f859;1f860,1f887;1f890,1f8ad
"),
  (["v80", "8.0"], "
8b3,8b4;8e3,8e3;af9,af9;c5a,c5a;d5f,d5f;13f5,13f5;13f8,13fd;20be,20be;218a,218b;2bec,2bef;9fcd,9
fd5;a69e,a69e;a78f,a78f;a7b2,a7b7;a8fc,a8fd;ab60,ab63;ab70,abbf;fe2e,fe2f;108e0,108f2;108f4,108f
5;108fb,108ff;109bc,109bd;109c0,109cf;109d2,109ff;10c80,10cb2;10cc0,10cf2;10cfa,10cff;111c9,111c
c;111db,111df;11280,11286;11288,11288;1128a,1128d;1128f,1129d;1129f,112a9;11300,11300;11350,1135
0;115ca,115dd;11700,11719;1171d,1172b;11730,1173f;12399,12399;12480,12543;14400,14646;1d1de,1d1e
8;1d800,1da8b;1da9b,1da9f;1daa1,1daaf;1f32d,1f32f;1f37e,1f37f;1f3cf,1f3d3;1f3f8,1f3ff;1f4ff,1f4f
f;1f54b,1f54f;1f643,1f644;1f6d0,1f6d0;1f910,1f918;1f980,1f984;1f9c0,1f9c0;2b820,2cea1
"),
  (["v90", "9.0"], "
8b6,8bd;8d4,8e2;c80,c80;d4f,d4f;d54,d56;d58,d5e;d76,d78;1c80,1c88;1dfb,1dfb;23fb,23fe;2e43,2e44;
a7ae,a7ae;a8c5,a8c5;1018d,1018e;104b0,104d3;104d8,104fb;1123e,1123e;11400,11459;1145b,1145b;1145
d,1145d;11660,1166c;11c00,11c08;11c0a,11c36;11c38,11c45;11c50,11c6c;11c70,11c8f;11c92,11ca7;11ca
9,11cb6;16fe0,16fe0;17000,187ec;18800,18af2;1e000,1e006;1e008,1e018;1e01b,1e021;1e023,1e024;1e02
6,1e02a;1e900,1e94a;1e950,1e959;1e95e,1e95f;1f19b,1f1ac;1f23b,1f23b;1f57a,1f57a;1f5a4,1f5a4;1f6d
1,1f6d2;1f6f4,1f6f6;1f919,1f91e;1f920,1f927;1f930,1f930;1f933,1f93e;1f940,1f94b;1f950,1f95e;1f98
5,1f991
"),
  (["v100", "10.0"], "
860,86a;9fc,9fd;afa,aff;d00,d00;d3b,d3c;1cf7,1cf7;1df6,1df9;20bf,20bf;23ff,23ff;2bd2,2bd2;2e45,2
e49;312e,312e;9fd6,9fea;1032d,1032f;11a00,11a47;11a50,11a83;11a86,11a9c;11a9e,11aa2;11d00,11d06;
11d08,11d09;11d0b,11d36;11d3a,11d3a;11d3c,11d3d;11d3f,11d47;11d50,11d59;16fe1,16fe1;1b002,1b11e;
1b170,1b2fb;1f260,1f265;1f6d3,1f6d4;1f6f7,1f6f8;1f900,1f90b;1f91f,1f91f;1f928,1f92f;1f931,1f932;
1f94c,1f94c;1f95f,1f96b;1f992,1f997;1f9d0,1f9e6;2ceb0,2ebe0
"),
  (["v110", "11.0"], "
560,560;588,588;5ef,5ef;7fd,7ff;8d3,8d3;9fe,9fe;a76,a76;c04,c04;c84,c84;1878,1878;1c90,1cba;1cbd
,1cbf;2bba,2bbc;2bd3,2beb;2bf0,2bfe;2e4a,2e4e;312f,312f;9feb,9fef;a7af,a7af;a7b8,a7b9;a8fe,a8ff;
10a34,10a35;10a48,10a48;10d00,10d27;10d30,10d39;10f00,10f27;10f30,10f59;110cd,110cd;11144,11146;
1133b,1133b;1145e,1145e;1171a,1171a;11800,1183b;11a9d,11a9d;11d60,11d65;11d67,11d68;11d6a,11d8e;
11d90,11d91;11d93,11d98;11da0,11da9;11ee0,11ef8;16e40,16e9a;187ed,187f1;1d2e0,1d2f3;1d372,1d378;
1ec71,1ecb4;1f12f,1f12f;1f6f9,1f6f9;1f7d5,1f7d8;1f94d,1f94f;1f96c,1f970;1f973,1f976;1f97a,1f97a;
1f97c,1f97f;1f998,1f9a2;1f9b0,1f9b9;1f9c1,1f9c2;1f9e7,1f9ff;1fa60,1fa6d
"),
  (["v120", "12.0"], "
c77,c77;e86,e86;e89,e89;e8c,e8c;e8e,e93;e98,e98;ea0,ea0;ea8,ea9;eac,eac;eba,eba;1cfa,1cfa;2bc9,2
bc9;2bff,2bff;2e4f,2e4f;a7ba,a7bf;a7c2,a7c6;ab66,ab67;10fe0,10ff6;1145f,1145f;116b8,116b8;119a0,
119a7;119aa,119d7;119da,119e4;11a84,11a85;11fc0,11ff1;11fff,11fff;13430,13438;16f45,16f4a;16f4f,
16f4f;16f7f,16f87;16fe2,16fe3;187f2,187f7;1b150,1b152;1b164,1b167;1e100,1e12c;1e130,1e13d;1e140,
1e149;1e14e,1e14f;1e2c0,1e2f9;1e2ff,1e2ff;1e94b,1e94b;1ed01,1ed3d;1f16c,1f16c;1f6d5,1f6d5;1f6fa,
1f6fa;1f7e0,1f7eb;1f90d,1f90f;1f93f,1f93f;1f971,1f971;1f97b,1f97b;1f9a5,1f9aa;1f9ae,1f9af;1f9ba,
1f9bf;1f9c3,1f9ca;1f9cd,1f9cf;1fa00,1fa53;1fa70,1fa73;1fa78,1fa7a;1fa80,1fa82;1fa90,1fa95
"),
  (["v121", "12.1"], "
32ff,32ff
"),
  (["v130", "13.0"], "
8be,8c7;b55,b55;d04,d04;d81,d81;1abf,1ac0;2b97,2b97;2e50,2e52;31bb,31bf;4db6,4dbf;9ff0,9ffc;a7c7
,a7ca;a7f5,a7f6;a82c,a82c;ab68,ab6b;1019c,1019c;10e80,10ea9;10eab,10ead;10eb0,10eb1;10fb0,10fcb;
11147,11147;111ce,111cf;1145a,1145a;11460,11461;11900,11906;11909,11909;1190c,11913;11915,11916;
11918,11935;11937,11938;1193b,11946;11950,11959;11fb0,11fb0;16fe4,16fe4;16ff0,16ff1;18af3,18cd5;
18d00,18d08;1f10d,1f10f;1f16d,1f16f;1f1ad,1f1ad;1f6d6,1f6d7;1f6fb,1f6fc;1f8b0,1f8b1;1f90c,1f90c;
1f972,1f972;1f977,1f978;1f9a3,1f9a4;1f9ab,1f9ad;1f9cb,1f9cb;1fa74,1fa74;1fa83,1fa86;1fa96,1faa8;
1fab0,1fab6;1fac0,1fac2;1fad0,1fad6;1fb00,1fb92;1fb94,1fbca;1fbf0,1fbf9;2a6d7,2a6dd;30000,3134a
"),
  (["v140", "14.0"], "
61d,61d;870,88e;890,891;898,89f;8b5,8b5;8c8,8d2;c3c,c3c;c5d,c5d;cdd,cdd;170d,170d;1715,1715;171f
,171f;180f,180f;1ac1,1ace;1b4c,1b4c;1b7d,1b7e;1dfa,1dfa;20c0,20c0;2c2f,2c2f;2c5f,2c5f;2e53,2e5d;
9ffd,9fff;a7c0,a7c1;a7d0,a7d1;a7d3,a7d3;a7d5,a7d9;a7f2,a7f4;fbc2,fbc2;fd40,fd4f;fdcf,fdcf;fdfe,f
dff;10570,1057a;1057c,1058a;1058c,10592;10594,10595;10597,105a1;105a3,105b1;105b3,105b9;105bb,10
5bc;10780,10785;10787,107b0;107b2,107ba;10f70,10f89;11070,11075;110c2,110c2;116b9,116b9;11740,11
746;11ab0,11abf;12f90,12ff2;16a70,16abe;16ac0,16ac9;1aff0,1aff3;1aff5,1affb;1affd,1affe;1b11f,1b
122;1cf00,1cf2d;1cf30,1cf46;1cf50,1cfc3;1d1e9,1d1ea;1df00,1df1e;1e290,1e2ae;1e7e0,1e7e6;1e7e8,1e
7eb;1e7ed,1e7ee;1e7f0,1e7fe;1f6dd,1f6df;1f7f0,1f7f0;1f979,1f979;1f9cc,1f9cc;1fa7b,1fa7c;1faa9,1f
aac;1fab7,1faba;1fac3,1fac5;1fad7,1fad9;1fae0,1fae7;1faf0,1faf6;2a6de,2a6df;2b735,2b738
"),
  (["v150", "15.0"], "
cf3,cf3;ece,ece;10efd,10eff;1123f,11241;11b00,11b09;11f00,11f10;11f12,11f3a;11f3e,11f59;1342f,13
42f;13439,13455;1b132,1b132;1b155,1b155;1d2c0,1d2d3;1df25,1df2a;1e030,1e06d;1e08f,1e08f;1e4d0,1e
4f9;1f6dc,1f6dc;1f774,1f776;1f77b,1f77f;1f7d9,1f7d9;1fa75,1fa77;1fa87,1fa88;1faad,1faaf;1fabb,1f
abd;1fabf,1fabf;1face,1facf;1fada,1fadb;1fae8,1fae8;1faf7,1faf8;2b739,2b739;31350,323af
"),
  (["v151", "15.1"], "
2ffc,2fff;31ef,31ef;2ebf0,2ee5d
"),
  (["v160", "16.0"], "
897,897;1b4e,1b4f;1b7f,1b7f;1c89,1c8a;2427,2429;31e4,31e5;a7cb,a7cd;a7da,a7dc;105c0,105f3;10d40,
10d65;10d69,10d85;10d8e,10d8f;10ec2,10ec4;10efc,10efc;11380,11389;1138b,1138b;1138e,1138e;11390,
113b5;113b7,113c0;113c2,113c2;113c5,113c5;113c7,113ca;113cc,113d5;113d7,113d8;113e1,113e2;116d0,
116e3;11bc0,11be1;11bf0,11bf9;11f5a,11f5a;13460,143fa;16100,16139;16d40,16d79;1cc00,1ccf9;1cd00,
1ceb3;1e5d0,1e5fa;1e5ff,1e5ff;1f8b2,1f8bb;1f8c0,1f8c1;1fa89,1fa89;1fa8f,1fa8f;1fabe,1fabe;1fac6,
1fac6;1fadc,1fadc;1fadf,1fadf;1fae9,1fae9;1fbcb,1fbef;1fbfa,1fbfa
")
]

/-- The ranges of the value with a loose name in a table of values. -/
def valueRanges? (table : List (List String × String)) (name : String) :
    Option (Array (Nat × Nat)) :=
  (table.find? fun e => e.1.contains name).map fun e => Table.pairs e.2

end Autotext.Text
